import DirectiveScan.Proofs.Query.Address

namespace DirectiveScan

/-! What a walk hands down from piece to piece.

A node gives each of its immediate pieces a role. A piece that is no node hands its own
role on, until one of its pieces uses it up. The main statement is that the visits of a
walk stand at the addresses of the nodes, each with the role and the parent that were
handed down to its address. -/

/-! ## Roles -/

/-- The role of an immediate piece of a node. -/
def Node.roleAt : Node → Nat → Role
  | .call .., 0 => .callee
  | .call _ _ arguments _, index + 1 =>
      if index < arguments.length then .argument index else .nested
  | .member .., 0 => .object
  | .member .., _ + 1 => .property
  | .property .., 0 => .key
  | .property .., _ + 1 => .value
  | .object _, index => .entry index
  | .array _, index => .element index
  | _, _ => .nested

namespace Piece

/-- Whether a piece uses up the role of its slot. -/
def takesRole : Piece → Bool
  | .node _ | .expr _ => true
  | .callee (.expr _) => true
  | .callee .superClass | .callee .moduleImport => false
  | .memberName (.privateName _) => false
  | .memberName _ => true
  | .key word => word.takesRole
  | .entry _ => true
  | .element .hole => false
  | .element _ => true
  | .target _ => true
  | .part one => one.takesRole

/-- The role of an immediate piece of a piece with a role. An expression that is no node
uses its role up and hands none on. -/
def roleAt (role : Role) : Piece → Nat → Role
  | .node found, index => found.roleAt index
  | .expr (.wrapped ..), _ | .expr (.other ..), _ => .nested
  | piece, index => if (piece.children.take index).any takesRole then .nested else role

/-- A piece that is no node hands on its role or none. -/
theorem roleAt_of_own_eq_nil {piece : Piece} (noNode : piece.own = []) (role : Role)
    (index : Nat) : piece.roleAt role index = role ∨ piece.roleAt role index = .nested := by
  cases piece with
  | node found => cases noNode
  | expr inner =>
      cases inner with
      | node found => simp only [roleAt]; split <;> simp
      | _ => exact .inr rfl
  | _ => simp only [roleAt]; split <;> simp

/-- The parent of what is immediately below a piece with a parent. -/
def parentBelow (parent : Option NodeKind) : Piece → Option NodeKind
  | .node found => some found.kind
  | _ => parent

/-- The visits in a piece with a role and a parent. -/
def visits (role : Role) (parent : Option NodeKind) : Piece → List Visit
  | .node found => ⟨found, role, parent⟩ :: found.descendants
  | .expr inner => inner.visits role parent
  | .callee (.expr called) => called.visits role parent
  | .callee .superClass | .callee .moduleImport => []
  | .memberName (.name word) => [⟨.identifier word, role, parent⟩]
  | .memberName (.privateName _) => []
  | .memberName (.computed property) => property.visits role parent
  | .key word => word.visits role parent
  | .entry (.property first value) =>
      ⟨.property first value, role, parent⟩ :: (Node.property first value).descendants
  | .entry (.shorthand word) =>
      let property := Node.property (.name word) (.node (.identifier word))
      ⟨property, role, parent⟩ :: property.descendants
  | .entry (.initialized word value) =>
      ⟨.identifier word, role, parent⟩ :: value.visits .nested parent
  | .entry (.method first parts) =>
      first.visits role parent ++ Part.visitAll (role.afterKey first) parent parts
  | .entry (.spread value) => value.visits role parent
  | .element .hole => []
  | .element (.value value) | .element (.spread value) => value.visits role parent
  | .target (.name word types) =>
      ⟨.identifier word, role, parent⟩ :: Part.visitAll .nested parent types
  | .target (.pattern _ parts) => Part.visitAll role parent parts
  | .part one => one.visits role parent

end Piece

/-! ## Visits of lists -/

theorem Part.visitAll_eq (role : Role) (parent : Option NodeKind) (parts : List Part) :
    Part.visitAll role parent parts =
      ((parts.map Piece.part).mapIdx fun index part =>
        part.visits (if ((parts.map Piece.part).take index).any Piece.takesRole then .nested
          else role) parent).flatten := by
  induction parts generalizing role with
  | nil => simp [Part.visitAll]
  | cons part rest induction =>
      rw [Part.visitAll, induction]
      cases takes : part.takesRole <;>
        simp [List.mapIdx_cons, Role.after, Piece.visits, Piece.takesRole, takes]

/-- A list whose items are visited one after another, each in a slot of its own. -/
private theorem visitAll_eq_flatten {α : Type} (visitAll : Nat → List α → List Visit)
    {wrap : α → Piece} (role : Nat → Role) {parent : Option NodeKind}
    (nil : ∀ index, visitAll index [] = [])
    (cons : ∀ index value rest, visitAll index (value :: rest) =
      (wrap value).visits (role index) parent ++ visitAll (index + 1) rest)
    (index : Nat) (values : List α) :
    visitAll index values =
      ((values.map wrap).mapIdx fun place piece =>
        piece.visits (role (index + place)) parent).flatten := by
  induction values generalizing index with
  | nil => simp [nil]
  | cons value rest induction =>
      simp [cons, List.mapIdx_cons, induction, Nat.add_assoc, Nat.add_comm 1]

theorem Expr.visitArguments_eq (values : List Expr) :
    Expr.visitArguments 0 values =
      ((values.map Piece.expr).mapIdx fun place value =>
        value.visits (.argument place) (some .callExpression)).flatten := by
  simpa using visitAll_eq_flatten Expr.visitArguments .argument (fun _ => rfl)
    (fun _ _ _ => rfl) 0 values

theorem Entry.visitAll_eq (entries : List Entry) :
    Entry.visitAll 0 entries =
      ((entries.map Piece.entry).mapIdx fun place entry =>
        entry.visits (.entry place) (some .objectExpression)).flatten := by
  have visits_entry (role : Role) (entry : Entry) :
      entry.visits role = (Piece.entry entry).visits role (some .objectExpression) := by
    cases entry <;>
      simp [Piece.visits, Entry.visits, Node.descendants, Expr.visits, PropertyKey.visits]
  simpa using visitAll_eq_flatten Entry.visitAll .entry (fun _ => rfl)
    (fun index entry rest => by rw [Entry.visitAll, visits_entry]) 0 entries

theorem Element.visitAll_eq (elements : List Element) :
    Element.visitAll 0 elements =
      ((elements.map Piece.element).mapIdx fun place element =>
        element.visits (.element place) (some .arrayExpression)).flatten := by
  have visits_element (role : Role) (element : Element) :
      element.visits role = (Piece.element element).visits role (some .arrayExpression) := by
    cases element <;> rfl
  simpa using visitAll_eq_flatten Element.visitAll .element (fun _ => rfl)
    (fun index element rest => by rw [Element.visitAll, visits_element]) 0 elements

theorem Declarator.visitAll_eq (declarators : List Declarator) :
    Declarator.visitAll declarators =
      ((declarators.map fun declarator => Piece.node (.variableDeclarator declarator)).mapIdx
        fun _ declarator => declarator.visits .nested (some .variableDeclaration)).flatten :=
  visitAll_eq_flatten (fun _ => Declarator.visitAll) (fun _ => .nested)
    (fun _ => rfl) (fun _ _ _ => rfl) 0 declarators

/-! ## One step down -/

theorem Piece.visits_identifier (role : Role) (parent : Option NodeKind) (word : String) :
    (Piece.node (.identifier word)).visits role parent = [⟨.identifier word, role, parent⟩] := rfl

theorem Part.visitAll_nested (parent : Option NodeKind) (parts : List Part) :
    Part.visitAll .nested parent parts =
      ((parts.map Piece.part).mapIdx fun _ part => part.visits .nested parent).flatten := by
  simp [Part.visitAll_eq]

theorem Node.descendants_eq (found : Node) :
    found.descendants = (found.pieces.mapIdx fun index child =>
      child.visits (found.roleAt index) (some found.kind)).flatten := by
  cases found with
  | call start callee arguments types =>
      have ofCallee : callee.visits =
          (Piece.callee callee).visits .callee (some .callExpression) := by
        cases callee <;> rfl
      have ofArguments : Expr.visitArguments 0 arguments =
          ((arguments.map Piece.expr).mapIdx fun index child =>
            child.visits ((Node.call start callee arguments types).roleAt (index + 1))
              (some .callExpression)).flatten := by
        rw [Expr.visitArguments_eq]
        congr 1
        apply List.ext_getElem
        · simp
        · intro index bound _
          have isArgument : index < arguments.length := by simpa using bound
          simp [Node.roleAt, isArgument]
      have ofTypes : Part.visitAll .nested (some .callExpression) types =
          ((types.map Piece.part).mapIdx fun index child =>
            child.visits ((Node.call start callee arguments types).roleAt
              (index + (arguments.map Piece.expr).length + 1)) (some .callExpression)).flatten := by
        have isNoArgument (index : Nat) : ¬index + arguments.length < arguments.length := by omega
        simp only [Part.visitAll_nested, Node.roleAt, List.length_map, isNoArgument, if_false]
      rw [Node.descendants, ofCallee, ofArguments, ofTypes, Node.pieces, List.mapIdx_cons,
        List.mapIdx_append, List.flatten_cons, List.flatten_append, List.append_assoc]
      rfl
  | member owner last =>
      have ofLast : last.visits =
          (Piece.memberName last).visits .property (some .memberExpression) := by
        cases last <;> rfl
      rw [Node.descendants, ofLast]
      simp [Node.pieces, Node.roleAt, Node.kind, Piece.visits, List.mapIdx_cons]
  | property key value =>
      simp [Node.descendants, Node.pieces, Node.roleAt, Node.kind, Piece.visits, List.mapIdx_cons]
  | object entries =>
      simp [Node.descendants, Node.pieces, Node.roleAt, Node.kind, Entry.visitAll_eq]
  | array elements =>
      simp [Node.descendants, Node.pieces, Node.roleAt, Node.kind, Element.visitAll_eq]
  | identifier word => rfl
  | string text => rfl
  | boolean value => rfl
  | function name flags parameters body =>
      cases name <;>
        simp [Node.descendants, Node.pieces, Node.roleAt, Node.kind, Piece.visits_identifier,
          List.mapIdx_cons, List.mapIdx_append, Part.visitAll_nested]
  | arrow isAsync parameters body =>
      simp [Node.descendants, Node.pieces, Node.roleAt, Node.kind, List.mapIdx_append,
        Part.visitAll_nested]
  | functionDeclaration name flags parameters body =>
      simp [Node.descendants, Node.pieces, Node.roleAt, Node.kind, Piece.visits_identifier,
        List.mapIdx_cons, List.mapIdx_append, Part.visitAll_nested]
  | variableDeclaration kind declarators =>
      simp [Node.descendants, Node.pieces, Node.roleAt, Node.kind, Declarator.visitAll_eq]
  | variableDeclarator declarator =>
      rcases declarator with ⟨target, initial⟩
      have ofTarget : target.visits =
          (Piece.target target).visits .nested (some .variableDeclarator) := by
        cases target <;> rfl
      rw [Node.descendants, Declarator.descendants, ofTarget]
      cases initial <;>
        simp [Node.pieces, Node.roleAt, Node.kind, Piece.visits, List.mapIdx_cons,
          Expr.visitInitial]

/-- The parts behind a piece get its role if the piece does not use it up. -/
theorem Part.visitAll_behind (first : Piece) (role : Role) (parent : Option NodeKind)
    (parts : List Part) :
    Part.visitAll (if first.takesRole then .nested else role) parent parts =
      ((parts.map Piece.part).mapIdx fun index part =>
        part.visits (if ((first :: parts.map Piece.part).take (index + 1)).any Piece.takesRole
          then .nested else role) parent).flatten := by
  rw [Part.visitAll_eq]
  cases takes : first.takesRole <;> simp [takes]

/-- The visits in a piece: first the piece itself if it is a node, and then those in its
immediate pieces, one after another, with what is handed to them. -/
theorem Piece.visits_eq (role : Role) (parent : Option NodeKind) (piece : Piece) :
    piece.visits role parent = piece.own.map (fun found => ⟨found, role, parent⟩) ++
      (piece.children.mapIdx fun index child =>
        child.visits (piece.roleAt role index) (piece.parentBelow parent)).flatten := by
  -- A piece around one piece hands everything on to it.
  have around (inner : Piece) :
      inner.visits role parent = ([inner].mapIdx fun index child =>
        child.visits (if ([inner].take index).any takesRole then .nested else role)
          parent).flatten := by
    simp [List.mapIdx_cons]
  have first (head : Piece) (parts : List Part) :
      head.visits role parent ++
          Part.visitAll (if head.takesRole then .nested else role) parent parts =
        ((head :: parts.map Piece.part).mapIdx fun index child =>
          child.visits (if ((head :: parts.map Piece.part).take index).any takesRole then .nested
            else role) parent).flatten := by
    rw [Part.visitAll_behind, List.mapIdx_cons, List.flatten_cons]
    rfl
  cases piece with
  | node found =>
      rw [Piece.visits, Node.descendants_eq]
      rfl
  | expr inner =>
      cases inner with
      | node found => exact around (.node found)
      | wrapped wrapper inner types =>
          rw [Piece.visits, Expr.visits, Part.visitAll_nested, Piece.children, List.mapIdx_cons]
          rfl
      | other shape parts => exact Part.visitAll_nested parent parts
  | callee called =>
      cases called with
      | expr called => exact around (.expr called)
      | superClass => rfl
      | moduleImport => rfl
  | memberName name =>
      cases name with
      | name word => exact around (.node (.identifier word))
      | privateName word => rfl
      | computed property => exact around (.expr property)
  | key word =>
      cases word with
      | name word => exact around (.node (.identifier word))
      | string text => exact around (.node (.string text))
      | number value => rfl
      | bigInt => rfl
      | computed inner => exact around (.expr inner)
  | entry one =>
      cases one with
      | property first value => exact around (.node (.property first value))
      | shorthand word =>
          exact around (.node (.property (.name word) (.node (.identifier word))))
      | initialized word value =>
          simp [Piece.visits, Piece.own, Piece.children, Piece.roleAt, Piece.parentBelow,
            Piece.takesRole, Node.descendants, List.mapIdx_cons]
      | method word parts => exact first (.key word) parts
      | spread value => exact around (.expr value)
  | element one =>
      cases one with
      | hole => rfl
      | value value => exact around (.expr value)
      | spread value => exact around (.expr value)
  | target one =>
      cases one with
      | name word types => exact first (.node (.identifier word)) types
      | pattern shape parts => exact Part.visitAll_eq role parent parts
  | part one =>
      cases one with
      | node found => exact around (.node found)
      | name word => exact around (.node (.identifier word))
      | expr inner => exact around (.expr inner)
      | construct label parts => exact Part.visitAll_eq role parent parts

/-! ## The way from a start to a piece -/

/-- Where a piece stands, the role handed to it, and the nearest node above it with its
address. -/
structure Standing where
  here : Address
  role : Role
  above : Option (Address × Node)

/-- The kind of the nearest node above. -/
def Standing.parent (standing : Standing) : Option NodeKind :=
  standing.above.map fun above => above.2.kind

/-- The visit of a node that stands so. -/
def Standing.visit (standing : Standing) (found : Node) : Visit :=
  ⟨found, standing.role, standing.parent⟩

namespace Piece

/-- The nearest node above what is immediately below a piece. -/
def aboveBelow (standing : Standing) : Piece → Option (Address × Node)
  | .node found => some (standing.here, found)
  | _ => standing.above

/-- How an immediate piece of a piece stands. -/
def handDown (piece : Piece) (standing : Standing) (index : Nat) : Standing where
  here := standing.here ++ [index]
  role := piece.roleAt standing.role index
  above := piece.aboveBelow standing

/-- The piece at an address, and how it stands. -/
def reach (piece : Piece) (standing : Standing) : Address → Option (Piece × Standing)
  | [] => some (piece, standing)
  | index :: rest => piece.children[index]?.bind (·.reach (piece.handDown standing index) rest)

theorem parent_handDown (piece : Piece) (standing : Standing) (index : Nat) :
    (piece.handDown standing index).parent = piece.parentBelow standing.parent := by
  cases piece <;> rfl

theorem reach_append (piece : Piece) (standing : Standing) (outer inner : Address) :
    piece.reach standing (outer ++ inner) =
      (piece.reach standing outer).bind fun reached => reached.1.reach reached.2 inner := by
  induction outer generalizing piece standing with
  | nil => rfl
  | cons index rest induction =>
      rw [List.cons_append, reach, reach, Option.bind_assoc]
      simp only [induction]

theorem reach_concat (piece : Piece) (standing : Standing) (address : Address) (index : Nat) :
    piece.reach standing (address ++ [index]) =
      (piece.reach standing address).bind fun reached =>
        reached.1.children[index]?.map (·, reached.1.handDown reached.2 index) := by
  rw [reach_append]
  congr 1
  funext reached
  rw [reach]
  cases reached.1.children[index]? <;> rfl

/-- Handing something down does not change which piece is reached. -/
theorem map_fst_reach (piece : Piece) (standing : Standing) (address : Address) :
    (piece.reach standing address).map Prod.fst = piece.at? address := by
  induction address generalizing piece standing with
  | nil => rfl
  | cons index rest induction =>
      rw [reach, at?, Option.map_bind]
      congr 1
      funext child
      exact induction child _

theorem at?_eq_some_iff (piece : Piece) (standing : Standing) (address : Address)
    (found : Piece) :
    piece.at? address = some found ↔
      ∃ reached, piece.reach standing address = some (found, reached) := by
  rw [← map_fst_reach piece standing, Option.map_eq_some_iff]
  constructor
  · rintro ⟨⟨_, reached⟩, holds, rfl⟩
    exact ⟨reached, holds⟩
  · rintro ⟨reached, holds⟩
    exact ⟨_, holds, rfl⟩

/-- The address of what is reached is the way to it, behind the address of the piece. -/
theorem here_of_reach {piece found : Piece} {standing reached : Standing} {address : Address}
    (holds : piece.reach standing address = some (found, reached)) :
    reached.here = standing.here ++ address := by
  induction address generalizing piece standing with
  | nil =>
      cases holds
      simp
  | cons index rest induction =>
      rcases Option.bind_eq_some_iff.mp holds with ⟨child, _, holds⟩
      rw [induction holds]
      simp [handDown]

/-! ## The main statement -/

private theorem forall₂_flatten_mapIdx {α β γ : Type} {related : α → β → Prop}
    {values : List γ} {left : Nat → γ → List α} {right : Nat → γ → List β}
    (each : ∀ index value, values[index]? = some value →
      List.Forall₂ related (left index value) (right index value)) :
    List.Forall₂ related (values.mapIdx left).flatten (values.mapIdx right).flatten := by
  induction values generalizing left right with
  | nil => simp
  | cons value rest induction =>
      simp only [List.mapIdx_cons, List.flatten_cons]
      refine List.rel_append (each 0 value rfl) (induction ?_)
      intro index next isNext
      exact each (index + 1) next (by simpa using isNext)

/-- The visits in a piece stand at the addresses of its nodes, as they are reached. -/
theorem forall₂_visits (piece : Piece) (standing : Standing) :
    List.Forall₂ (fun address visit => ∃ reached,
        piece.reach standing address = some (.node visit.node, reached) ∧
          visit = reached.visit visit.node)
      piece.addresses (piece.visits standing.role standing.parent) := by
  induction piece using Piece.induction generalizing standing with
  | step piece induction =>
      rw [addresses_eq, visits_eq]
      apply List.rel_append
      · cases piece with
        | node found => exact .cons ⟨standing, rfl, rfl⟩ .nil
        | _ => exact .nil
      · apply forall₂_flatten_mapIdx
        intro index child isChild
        rw [List.forall₂_map_left_iff, ← parent_handDown]
        refine (induction child (List.mem_of_getElem? isChild)
          (piece.handDown standing index)).imp ?_
        intro address visit reached
        rwa [reach, isChild]

end Piece

namespace Start

/-- How a start stands itself. -/
def standing (start : Start) : Standing where
  here := []
  role := if start.isNode then .root else .nested
  above := none

/-- The piece at an address below a start, and how it stands. -/
def reach (start : Start) (address : Address) : Option (Piece × Standing) :=
  start.piece.reach start.standing address

theorem walk_eq_visits (start : Start) :
    start.walk = start.piece.visits start.standing.role start.standing.parent := by
  cases start with
  | program found => exact found.walk_eq
  | node found => exact found.walk_eq

/-- The visits of a walk stand at the addresses of the nodes, as they are reached. -/
theorem forall₂_walk (start : Start) :
    List.Forall₂ (fun address visit => ∃ reached,
        start.reach address = some (.node visit.node, reached) ∧
          visit = reached.visit visit.node)
      start.addresses start.walk := by
  rw [walk_eq_visits]
  exact start.piece.forall₂_visits start.standing

theorem nodeAt_iff_reach (start : Start) (address : Address) (found : Node) :
    start.NodeAt address found ↔ ∃ reached, start.reach address = some (.node found, reached) :=
  start.piece.at?_eq_some_iff start.standing address _

theorem here_of_reach {start : Start} {address : Address} {found : Piece} {reached : Standing}
    (holds : start.reach address = some (found, reached)) : reached.here = address := by
  simpa [standing] using Piece.here_of_reach holds

end Start

end DirectiveScan
