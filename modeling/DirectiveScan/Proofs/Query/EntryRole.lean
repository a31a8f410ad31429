import DirectiveScan.Proofs.Query.Position

namespace DirectiveScan

/-! Who takes the role of an entry.

The role of an entry of an object literal is handed on inside of the entry until something
uses it up. A key that is a number does not, so the role of a method with such a key goes
on into its parameters and its body. The main statement says which node takes it there. -/

namespace Piece

/-- A node takes the role of its slot, and an expression that is no node drops it. -/
inductive UsesRole : Piece → Prop
  | node (found : Node) : UsesRole (.node found)
  | wrapped (wrapper : Wrapper) (inner : Expr) (types : List Part) :
      UsesRole (.expr (.wrapped wrapper inner types))
  | other (shape : ExprShape) (parts : List Part) : UsesRole (.expr (.other shape parts))

def HoldsUser (piece : Piece) : Prop :=
  ∃ address user, piece.at? address = some user ∧ user.UsesRole

/-- Nothing that stands before an address in a piece uses up a role. -/
def UnusedBefore (piece : Piece) (address : Address) : Prop :=
  ∀ earlier user, piece.at? earlier = some user → user.UsesRole → ¬earlier < address

/-! ## Pieces that use up a role -/

theorem holdsUser_iff (piece : Piece) :
    piece.HoldsUser ↔ piece.UsesRole ∨ ∃ child ∈ piece.children, child.HoldsUser := by
  constructor
  · intro ⟨address, user, isUser, uses⟩
    cases address with
    | nil =>
        cases isUser
        exact .inl uses
    | cons index rest =>
        rcases Option.bind_eq_some_iff.mp isUser with ⟨child, isChild, isUser⟩
        exact .inr ⟨child, List.mem_of_getElem? isChild, rest, user, isUser, uses⟩
  · intro holds
    rcases holds with uses | ⟨child, member, rest, user, isUser, uses⟩
    · exact ⟨[], piece, rfl, uses⟩
    · rcases List.getElem?_of_mem member with ⟨index, isChild⟩
      exact ⟨index :: rest, user, by rw [at?, isChild]; exact isUser, uses⟩

/-- Entries and targets stand immediately in nodes, which give them roles of their own. All
other pieces hold no entries and no targets before the next node. -/
def isGroup : Piece → Bool
  | .entry _ | .target _ => true
  | _ => false

theorem isGroup_of_mem_children {piece : Piece} (noNode : piece.own = []) :
    ∀ child ∈ piece.children, child.isGroup = false := by
  cases piece with
  | node found => cases noNode
  | expr inner => cases inner <;> simp [children, isGroup]
  | callee called => cases called <;> simp [children, isGroup]
  | memberName name => cases name <;> simp [children, isGroup]
  | key word => cases word <;> simp [children, isGroup]
  | entry one => cases one <;> simp [children, isGroup]
  | element one => cases one <;> simp [children, isGroup]
  | target one => cases one <;> simp [children, isGroup]
  | part one => cases one <;> simp [children, isGroup]

theorem anyTakesRole_iff (parts : List Part) :
    Part.anyTakesRole parts = true ↔ ∃ part ∈ parts, part.takesRole = true := by
  induction parts with
  | nil => simp [Part.anyTakesRole]
  | cons part rest induction => simp [Part.anyTakesRole, induction]

theorem takesRole_iff {piece : Piece} (noGroup : piece.isGroup = false) :
    piece.takesRole = true ↔
      piece.UsesRole ∨ ∃ child ∈ piece.children, child.takesRole = true := by
  cases piece with
  | node found => exact iff_of_true rfl (.inl (.node found))
  | expr inner =>
      refine iff_of_true rfl ?_
      cases inner with
      | node found => exact .inr ⟨_, List.mem_singleton_self _, rfl⟩
      | wrapped wrapper inner types => exact .inl (.wrapped ..)
      | other shape parts => exact .inl (.other ..)
  | entry one => cases noGroup
  | target one => cases noGroup
  | callee called =>
      have notUser : ¬(Piece.callee called).UsesRole := by rintro ⟨⟩
      cases called <;> simp [notUser, takesRole, children]
  | memberName name =>
      have notUser : ¬(Piece.memberName name).UsesRole := by rintro ⟨⟩
      cases name <;> simp [notUser, takesRole, children]
  | key word =>
      have notUser : ¬(Piece.key word).UsesRole := by rintro ⟨⟩
      cases word <;> simp [notUser, takesRole, PropertyKey.takesRole, children]
  | element one =>
      have notUser : ¬(Piece.element one).UsesRole := by rintro ⟨⟩
      cases one <;> simp [notUser, takesRole, children]
  | part one =>
      have notUser : ¬(Piece.part one).UsesRole := by rintro ⟨⟩
      cases one <;> simp [notUser, takesRole, Part.takesRole, anyTakesRole_iff, children]

/-- What is said to use up a role is what holds something that uses it up. -/
theorem takesRole_iff_holdsUser (piece : Piece) (noGroup : piece.isGroup = false) :
    piece.takesRole = true ↔ piece.HoldsUser := by
  induction piece using Piece.induction with
  | step piece induction =>
      rw [takesRole_iff noGroup, holdsUser_iff]
      by_cases uses : piece.UsesRole
      · exact iff_of_true (.inl uses) (.inl uses)
      · have noNode : piece.own = [] := by
          cases piece with
          | node found => exact absurd (.node found) uses
          | _ => rfl
        have below (child : Piece) (isChild : child ∈ piece.children) :=
          induction child isChild (isGroup_of_mem_children noNode child isChild)
        rw [or_iff_right uses, or_iff_right uses]
        exact exists_congr fun child => and_congr_right (below child)

/-! ## Handing a role on -/

theorem roleAt_of_not_usesRole {piece : Piece} (unused : ¬piece.UsesRole) (role : Role)
    (index : Nat) :
    piece.roleAt role index =
      if (piece.children.take index).any takesRole then .nested else role := by
  cases piece with
  | node found => exact absurd (.node found) unused
  | expr inner =>
      cases inner with
      | node found => rfl
      | wrapped wrapper inner types => exact absurd (.wrapped ..) unused
      | other shape parts => exact absurd (.other ..) unused
  | _ => rfl

theorem roleAt_of_usesRole {piece : Piece} (uses : piece.UsesRole) (noNode : piece.own = [])
    (role : Role) (index : Nat) : piece.roleAt role index = .nested := by
  cases uses with
  | node found => cases noNode
  | wrapped wrapper inner types => rfl
  | other shape parts => rfl

/-- A role comes to a place in a piece that does not use it up itself if no piece before the
place does, and nothing before the place inside of the next piece. -/
theorem unusedBefore_cons_iff {piece child : Piece} {index : Nat}
    (isChild : piece.children[index]? = some child) (rest : Address) :
    piece.UnusedBefore (index :: rest) ↔
      ¬piece.UsesRole ∧ (∀ before ∈ piece.children.take index, ¬before.HoldsUser) ∧
        child.UnusedBefore rest := by
  constructor
  · intro unused
    refine ⟨fun uses => ?_, fun before member => ?_, fun earlier user isUser uses isEarlier => ?_⟩
    · exact unused [] piece rfl uses (List.nil_lt_cons index rest)
    · rintro ⟨earlier, user, isUser, uses⟩
      rcases List.mem_take_iff_getElem.mp member with ⟨place, bound, isBefore⟩
      have isPlace : piece.children[place]? = some before := by
        rw [← isBefore]
        exact List.getElem?_eq_getElem _
      refine unused (place :: earlier) user (by rw [at?, isPlace]; exact isUser) uses ?_
      exact List.cons_lt_cons_iff.mpr (.inl (by omega))
    · refine unused (index :: earlier) user (by rw [at?, isChild]; exact isUser) uses ?_
      exact List.cons_lt_cons_iff.mpr (.inr ⟨rfl, isEarlier⟩)
  · rintro ⟨notUser, noneBefore, unused⟩ earlier user isUser uses isEarlier
    -- An earlier place is the piece itself, in a piece before the next one, or inside of it.
    cases earlier with
    | nil =>
        cases isUser
        exact notUser uses
    | cons place earlier =>
        rcases Option.bind_eq_some_iff.mp isUser with ⟨before, isBefore, isUser⟩
        rcases List.cons_lt_cons_iff.mp isEarlier with less | ⟨same, isInside⟩
        · refine noneBefore before ?_ ⟨earlier, user, isUser, uses⟩
          exact List.mem_of_getElem? (List.getElem?_take_of_lt less ▸ isBefore)
        · subst same
          cases isChild.symm.trans isBefore
          exact unused earlier user isUser uses isInside

/-- Down to the next node, a role comes to exactly the places before which nothing uses it
up. -/
theorem role_eq_iff_unusedBefore {piece found : Piece} {standing reached : Standing}
    {address : Address} (fresh : standing.Fresh) (hasRole : standing.role ≠ .nested)
    (holds : piece.reach standing address = some (found, reached))
    (same : reached.above = standing.above) :
    reached.role = standing.role ↔ piece.UnusedBefore address := by
  induction address generalizing piece standing with
  | nil =>
      cases holds
      exact iff_of_true rfl fun earlier _ _ _ isEarlier => List.not_lt_nil earlier isEarlier
  | cons index rest induction =>
      cases own : piece.own with
      | cons around _ =>
          cases piece with
          -- Below a node, another node would be the nearest one above.
          | node around => exact absurd same (above_ne_of_reach_node fresh holds)
          | _ => cases own
      | nil =>
          rcases Option.bind_eq_some_iff.mp holds with ⟨child, isChild, below⟩
          have freshBelow := fresh_handDown fresh piece index
          have sameBelow : reached.above = (piece.handDown standing index).above := by
            cases piece with
            | node around => cases own
            | _ => exact same
          -- A role that is used up on the way does not come back.
          have lost (used : piece.roleAt standing.role index = .nested) :
              reached.role ≠ standing.role := by
            rcases role_of_reach freshBelow below sameBelow with kept | nested
            · rw [kept, handDown, used]
              exact hasRole.symm
            · rw [nested]
              exact hasRole.symm
          rw [unusedBefore_cons_iff isChild]
          by_cases uses : piece.UsesRole
          · refine iff_of_false (lost (roleAt_of_usesRole uses own ..)) fun unused => ?_
            exact unused.1 uses
          · have isRole := roleAt_of_not_usesRole uses standing.role index
            have taken : (piece.children.take index).any takesRole = true ↔
                ∃ before ∈ piece.children.take index, before.HoldsUser := by
              rw [List.any_eq_true]
              refine exists_congr fun before => and_congr_right fun member => ?_
              exact takesRole_iff_holdsUser before
                (isGroup_of_mem_children own before (List.mem_of_mem_take member))
            by_cases used : ∃ before ∈ piece.children.take index, before.HoldsUser
            · rw [if_pos (taken.mpr used)] at isRole
              refine iff_of_false (lost isRole) fun unused => ?_
              rcases used with ⟨before, member, holdsUser⟩
              exact unused.2.1 before member holdsUser
            · rw [if_neg (mt taken.mp used)] at isRole
              have handed : (piece.handDown standing index).role = standing.role := isRole
              have next := induction freshBelow (handed ▸ hasRole) below sameBelow
              rw [handed] at next
              rw [next]
              constructor
              · intro unused
                exact ⟨uses, fun before member holdsUser => used ⟨before, member, holdsUser⟩,
                  unused⟩
              · rintro ⟨_, _, unused⟩
                exact unused

end Piece

/-! ## Methods of object literals -/

/-- Keys that are numbers, with or without the mark of a large integer. -/
inductive PropertyKey.IsNumber : PropertyKey → Prop
  | number (value : Decimal) : IsNumber (.number value)
  | bigInt : IsNumber .bigInt

theorem PropertyKey.not_holdsUser_iff (key : PropertyKey) :
    ¬(Piece.key key).HoldsUser ↔ key.IsNumber := by
  rw [← Piece.takesRole_iff_holdsUser _ rfl, Bool.not_eq_true]
  constructor
  · intro takesNone
    cases key with
    | number value => exact .number value
    | bigInt => exact .bigInt
    | _ => cases takesNone
  · intro isNumber
    cases isNumber <;> rfl

namespace Start

/-- A node in the parameters or the body of a method, getter or setter of an object
literal, with no other node between it and the literal. The key is the first piece of the
entry, and the parameters and the body follow. -/
structure InMethod (start : Start) (address : Address) (index : Nat) (key : PropertyKey)
    (parts : List Part) (way : Address) (visit : Visit) : Prop where
  isMethod : ∃ entries, start.NodeAt address (.object entries) ∧
    entries[index]? = some (.method key parts)
  behindKey : ∃ place rest, way = (place + 1) :: rest
  offered : start.Offers (address ++ index :: way) visit
  nearest : start.Above address (address ++ index :: way)

/-- Every node in a method of an object literal is nested, whatever the key is. -/
def MethodsNested (start : Start) : Prop :=
  ∀ address index key parts way visit, start.InMethod address index key parts way visit →
    visit.role = .nested

variable {start : Start} {address : Address} {entries : List Entry} {index : Nat}

/-- The role of an entry comes to the node before which nothing in the entry uses it up. -/
theorem role_in_entry {entry : Entry} {way : Address} {visit : Visit}
    (isLiteral : start.NodeAt address (.object entries)) (isEntry : entries[index]? = some entry)
    (offered : start.Offers (address ++ index :: way) visit)
    (nearest : start.Above address (address ++ index :: way)) :
    (visit.role = .nested ∨ visit.role = .entry index) ∧
      (visit.role = .entry index ↔ (Piece.entry entry).UnusedBefore way) := by
  rcases (start.nodeAt_iff_reach address _).mp isLiteral with ⟨standing, isNode⟩
  have holds := ((offers_below_iff isLiteral).mp ⟨offered, nearest⟩).1
  have isPiece : (Node.object entries).pieces[index]? = some (.entry entry) := by
    rw [Node.pieces, List.getElem?_map, isEntry]
    rfl
  rw [reach_below isNode, isPiece] at holds
  have fresh := Standing.fresh_below address (.object entries) index (.entry index)
  refine ⟨?_, Piece.role_eq_iff_unusedBefore fresh nofun holds rfl⟩
  exact (Piece.role_of_reach fresh holds rfl).symm

/-- Only a number lets the role of a method pass. -/
theorem isNumber_of_unusedBefore {key : PropertyKey} {parts : List Part} {place : Nat}
    {rest : Address}
    (unused : (Piece.entry (.method key parts)).UnusedBefore ((place + 1) :: rest)) :
    key.IsNumber := by
  rw [← PropertyKey.not_holdsUser_iff]
  intro ⟨earlier, user, isUser, uses⟩
  exact unused (0 :: earlier) user isUser uses (List.cons_lt_cons_iff.mpr (.inl (by omega)))

/-- A node in a method of an object literal has the role of the method, which is that of the
entry, exactly if the key is a number and nothing between the key and the node uses the role
up. Otherwise it is nested, as it is behind every other key. Hence all nodes in methods are
nested exactly if no such node comes first behind a number. -/
theorem role_in_method (start : Start) :
    (∀ address index key parts way visit, start.InMethod address index key parts way visit →
      (visit.role = .nested ∨ visit.role = .entry index) ∧
      (¬key.IsNumber → visit.role = .nested) ∧
      (visit.role = .entry index ↔
        key.IsNumber ∧ (Piece.entry (.method key parts)).UnusedBefore way)) ∧
    (start.MethodsNested ↔
      ∀ address index key parts way visit, start.InMethod address index key parts way visit →
        key.IsNumber → ¬(Piece.entry (.method key parts)).UnusedBefore way) := by
  have roles (address index key parts way visit)
      (inMethod : start.InMethod address index key parts way visit) :
      (visit.role = .nested ∨ visit.role = .entry index) ∧
      (visit.role = .entry index ↔
        key.IsNumber ∧ (Piece.entry (.method key parts)).UnusedBefore way) := by
    rcases inMethod.isMethod with ⟨entries, isLiteral, isMethod⟩
    rcases inMethod.behindKey with ⟨place, rest, rfl⟩
    have ⟨either, isEntry⟩ := role_in_entry isLiteral isMethod inMethod.offered inMethod.nearest
    refine ⟨either, isEntry.trans ?_⟩
    exact (and_iff_right_of_imp isNumber_of_unusedBefore).symm
  refine ⟨fun address index key parts way visit inMethod => ?_, ?_⟩
  · have ⟨either, isEntry⟩ := roles _ _ _ _ _ _ inMethod
    refine ⟨either, fun noNumber => either.resolve_right fun leaks => ?_, isEntry⟩
    exact noNumber (isEntry.mp leaks).1
  · constructor
    · intro nested address index key parts way visit inMethod isNumber unused
      have leaks := (roles _ _ _ _ _ _ inMethod).2.mpr ⟨isNumber, unused⟩
      cases leaks.symm.trans (nested _ _ _ _ _ _ inMethod)
    · intro noneFirst address index key parts way visit inMethod
      have ⟨either, isEntry⟩ := roles _ _ _ _ _ _ inMethod
      refine either.resolve_right fun leaks => ?_
      have ⟨isNumber, unused⟩ := isEntry.mp leaks
      exact noneFirst _ _ _ _ _ _ inMethod isNumber unused

/-- In `({ 1(a) {} });` the parameter has the role of the entry. -/
theorem parameter_behind_number :
    let start : Start := .program ⟨.script, [.construct .expressionStatement [.expr (.wrapped
      .parentheses (.node (.object [.method (.number (.ofNat 1))
        [.construct .parameter [.node (.identifier "a")], .construct .block []]])) [])]]⟩
    ¬start.MethodsNested := by
  intro start nested
  have reached : start.reach [0, 0, 0, 0, 0, 0, 1, 0, 0] = some (.node (.identifier "a"), _) := rfl
  have ⟨nearest, isLiteral⟩ := (above_eq_some_iff reached [0, 0, 0, 0, 0] _).mp rfl
  have offered := (start.offers_iff _ ⟨.identifier "a", .entry 0, some .objectExpression⟩).mpr
    ⟨_, reached, rfl⟩
  cases nested [0, 0, 0, 0, 0] 0 _ _ [1, 0, 0] _
    ⟨⟨_, isLiteral, rfl⟩, ⟨0, [0, 0], rfl⟩, offered, nearest⟩

end Start

end DirectiveScan
