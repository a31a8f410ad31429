import DirectiveScan.Proofs.Query.DocumentOrder
import DirectiveScan.Proofs.Query.Position
import Mathlib.Data.List.Nodup

namespace DirectiveScan

/-! The variables of declarations.

A search for the first values of a name collects the declarations that a walk meets and
opens each of them. A declaration inside of another one is collected by itself, and the
outer one holds it as well. The main statement is that every variable counts once all the
same: a declaration is opened only down to the variables immediately below it, and these are
exactly the nodes that have the declaration as their nearest one above. -/

/-! ## Choosing among values with keys -/

section Choose

variable {κ α β : Type} (choose? : α → Option β) (pairs : List (κ × α))

/-- What is chosen of some values, each under the key of its value. -/
def chosen : List (κ × β) :=
  pairs.filterMap fun pair => (choose? pair.2).map (pair.1, ·)

theorem map_snd_chosen :
    (chosen choose? pairs).map Prod.snd = (pairs.map Prod.snd).filterMap choose? := by
  rw [chosen, List.map_filterMap, List.filterMap_map]
  simp [Function.comp_def]

theorem map_fst_chosen_sublist :
    ((chosen choose? pairs).map Prod.fst).Sublist (pairs.map Prod.fst) := by
  induction pairs with
  | nil => exact .slnil
  | cons pair rest induction =>
      rw [chosen, List.filterMap_cons]
      cases choose? pair.2 with
      | none => exact induction.cons pair.1
      | some value => exact induction.cons_cons pair.1

theorem mem_chosen_iff (key : κ) (value : β) :
    (key, value) ∈ chosen choose? pairs ↔
      ∃ source, (key, source) ∈ pairs ∧ choose? source = some value := by
  simp [chosen]

end Choose

/-! ## Variables of a name -/

namespace Declarator

/-- The first value of a variable that is bound by just this name. -/
def initialOf? (name : String) : Declarator → Option Expr
  | .mk (.name bound _) initial => if bound = name then initial else none
  | .mk (.pattern ..) _ => none

theorem initialOf?_eq_some_iff (declarator : Declarator) (name : String) (value : Expr) :
    declarator.initialOf? name = some value ↔
      ∃ types, declarator = .mk (.name name types) (some value) := by
  rcases declarator with ⟨target, initial⟩
  cases target with
  | name bound types => simp [initialOf?, and_assoc]
  | pattern shape parts => simp [initialOf?]

/-- Only a plain name leads to a text; of a pattern just the tag is known. -/
theorem deepText?_id_name_iff (target : Target) (initial : Option Expr) (name : String) :
    (Node.variableDeclarator (.mk target initial)).deepText? "id.name" = some name ↔
      ∃ types, target = .name name types := by
  have cut : Text.split '.' "id.name" = ["id", "name"] := by decide
  rw [Node.deepText?_eq_textAt? _ cut, Field.textAt?_cons]
  change (Field.ofTarget target).textAt? ["name"] = some name ↔ _
  rw [Field.textAt?_name_iff]
  cases target <;> simp [Field.ofTarget]

end Declarator

namespace Start

theorem initialValuesNamed_eq (start : Start) (name : String) :
    start.initialValuesNamed name =
      ((start.findKind .variableDeclaration).flatMap Node.declarators).filterMap
        (Declarator.initialOf? name) := by
  rw [initialValuesNamed]
  congr 1
  funext ⟨target, initial⟩
  apply Option.ext
  intro value
  rw [Option.ite_none_right_eq_some, Declarator.deepText?_id_name_iff,
    Declarator.initialOf?_eq_some_iff]
  simp [Declarator.initial]

/-! ## Below a declaration -/

variable {start : Start} {above address : Address} {kind : VariableKind}
  {declarators : List Declarator}

/-- What has a declaration as the nearest node above is one of its variables: behind a
variable, the variable or a node inside of it is nearer. -/
theorem reach_variable_iff {standing : Standing}
    (isNode : start.reach above = some (.node (.variableDeclaration kind declarators), standing))
    (held : Node) (role : Role) :
    start.reach address = some (.node held,
        ⟨address, role, some (above, .variableDeclaration kind declarators)⟩) ↔
      ∃ index declarator, declarators[index]? = some declarator ∧ address = above ++ [index] ∧
        held = .variableDeclarator declarator ∧ role = .nested := by
  have step := reach_below isNode
  have isPiece (index : Nat) : (Node.variableDeclaration kind declarators).pieces[index]? =
      declarators[index]?.map fun declarator => .node (.variableDeclarator declarator) :=
    List.getElem?_map
  constructor
  · intro holds
    have nearest := ((above_eq_some_iff holds above _).mp rfl).1
    rcases nearest.leadsOn with ⟨_ | ⟨index, rest⟩, rfl⟩
    · exact absurd (List.append_nil above).symm nearest.different
    · rw [step, isPiece] at holds
      rcases Option.bind_eq_some_iff.mp holds with ⟨piece, isVariable, holds⟩
      rcases Option.map_eq_some_iff.mp isVariable with ⟨declarator, found, rfl⟩
      cases rest with
      | nil =>
          cases holds
          exact ⟨index, declarator, found, rfl, rfl, rfl⟩
      | cons inner rest =>
          have fresh := Standing.fresh_below above (.variableDeclaration kind declarators)
          have nearer := Piece.above_ne_of_reach_node (fresh index _) holds
          exact absurd rfl nearer
  · rintro ⟨index, declarator, found, rfl, rfl, rfl⟩
    rw [step, isPiece, found]
    rfl

theorem offers_variable_iff {visit : Visit}
    (isNode : start.NodeAt above (.variableDeclaration kind declarators)) :
    start.Offers address visit ∧ start.Above above address ↔
      ∃ index declarator, declarators[index]? = some declarator ∧ address = above ++ [index] ∧
        visit = ⟨.variableDeclarator declarator, .nested, some .variableDeclaration⟩ := by
  rcases (start.nodeAt_iff_reach above _).mp isNode with ⟨standing, reached⟩
  rw [offers_below_iff isNode, reach_variable_iff reached]
  constructor
  · rintro ⟨⟨index, declarator, found, isAddress, isHeld, isRole⟩, isParent⟩
    refine ⟨index, declarator, found, isAddress, ?_⟩
    rcases visit with ⟨held, role, parent⟩
    cases isHeld
    cases isRole
    cases isParent
    rfl
  · rintro ⟨index, declarator, found, isAddress, rfl⟩
    exact ⟨⟨index, declarator, found, isAddress, rfl, rfl⟩, rfl⟩

/-! ## Opening declarations -/

/-- The variables of the declarations that a walk meets, declaration by declaration, each
with its address. -/
def declared (start : Start) : List (Address × Declarator) :=
  (start.accepted fun visit => visit.node.kind = .variableDeclaration).flatMap fun declaration =>
    declaration.2.node.declarators.mapIdx fun index declarator =>
      (declaration.1 ++ [index], declarator)

theorem map_snd_declared (start : Start) :
    start.declared.map Prod.snd =
      (start.findKind .variableDeclaration).flatMap Node.declarators := by
  rw [findKind, findWhere_eq, List.flatMap_map, declared, List.map_flatMap]
  apply List.flatMap_congr
  intro declaration _
  apply List.ext_getElem <;> simp

theorem mem_declared_iff_nodeAt (start : Start) (address : Address) (declarator : Declarator) :
    (address, declarator) ∈ start.declared ↔
      ∃ above kind declarators index,
        start.NodeAt above (.variableDeclaration kind declarators) ∧
          declarators[index]? = some declarator ∧ address = above ++ [index] := by
  rw [declared, List.mem_flatMap]
  constructor
  · rintro ⟨⟨above, found, role, parent⟩, met, isVariable⟩
    have offered := (List.mem_filter.mp met).1
    have isNode := (start.nodeAt_iff_offers above found).mpr ⟨_, offered, rfl⟩
    rcases List.mem_mapIdx.mp isVariable with ⟨index, bound, same⟩
    cases same
    cases found with
    | variableDeclaration kind declarators =>
        exact ⟨above, kind, declarators, index, isNode, List.getElem?_eq_getElem bound, rfl⟩
    | _ => exact absurd bound (Nat.not_lt_zero index)
  · rintro ⟨above, kind, declarators, index, isNode, isVariable, rfl⟩
    rcases (start.nodeAt_iff_offers above _).mp isNode with ⟨⟨_, role, parent⟩, offered, rfl⟩
    rcases List.getElem?_eq_some_iff.mp isVariable with ⟨bound, rfl⟩
    exact ⟨_, List.mem_filter.mpr ⟨offered, rfl⟩, List.mem_mapIdx.mpr ⟨index, bound, rfl⟩⟩

/-- Exactly the variables are listed that the walk meets as those of a declaration. -/
theorem mem_declared_iff (start : Start) (address : Address) (declarator : Declarator) :
    (address, declarator) ∈ start.declared ↔
      ∃ visit, start.Offers address visit ∧ visit.node = .variableDeclarator declarator ∧
        visit.parent = some .variableDeclaration := by
  rw [mem_declared_iff_nodeAt]
  constructor
  · rintro ⟨above, kind, declarators, index, isNode, isVariable, isAddress⟩
    have met := (offers_variable_iff isNode).mpr ⟨index, declarator, isVariable, isAddress, rfl⟩
    exact ⟨_, met.1, rfl, rfl⟩
  · rintro ⟨visit, offered, isHeld, isParent⟩
    rcases (parent_eq_some_iff offered _).mp isParent with ⟨above, found, nearest, isNode, isKind⟩
    cases found with
    | variableDeclaration kind declarators =>
        rcases (offers_variable_iff isNode).mp ⟨offered, nearest⟩
          with ⟨index, other, isVariable, isAddress, rfl⟩
        cases isHeld
        exact ⟨above, kind, declarators, index, isNode, isVariable, isAddress⟩
    | _ => cases isKind

/-- One variable stands in front of another if its declaration does, or if it comes first in
the declaration of both. -/
def DeclaredBefore (left right : Address) : Prop :=
  left.dropLast < right.dropLast ∨ left.dropLast = right.dropLast ∧ left < right

theorem pairwise_declared (start : Start) :
    (start.declared.map Prod.fst).Pairwise DeclaredBefore := by
  rw [List.pairwise_map, declared, List.pairwise_flatMap]
  constructor
  · intro declaration _
    rw [List.pairwise_iff_getElem]
    intro left right _ _ before
    simp only [List.getElem_mapIdx]
    refine .inr ⟨by simp, List.append_left_lt ?_⟩
    exact List.cons_lt_cons_iff.mpr (.inl before)
  · refine start.pairwise_occurrences.filter _ |>.imp ?_
    intro left right before first isFirst second isSecond
    rcases List.mem_mapIdx.mp isFirst with ⟨_, _, rfl⟩
    rcases List.mem_mapIdx.mp isSecond with ⟨_, _, rfl⟩
    have inFront : left.1 < right.1 := before
    exact .inl (by simpa using inFront)

theorem nodup_declared (start : Start) : (start.declared.map Prod.fst).Nodup := by
  refine start.pairwise_declared.imp ?_
  rintro left right (before | ⟨_, before⟩) rfl
  · exact List.lt_irrefl _ before
  · exact List.lt_irrefl _ before

end Start

/-! ## Variables on a walk -/

/-- The variable of a declaration that is visited. -/
def Visit.declarator? : Visit → Option Declarator
  | ⟨.variableDeclarator declarator, _, some .variableDeclaration⟩ => some declarator
  | _ => none

theorem Visit.declarator?_eq_some_iff (visit : Visit) (declarator : Declarator) :
    visit.declarator? = some declarator ↔
      visit.node = .variableDeclarator declarator ∧ visit.parent = some .variableDeclaration := by
  constructor
  · intro isVariable
    unfold declarator? at isVariable
    split at isVariable
    · cases isVariable
      exact ⟨rfl, rfl⟩
    · cases isVariable
  · rcases visit with ⟨found, role, parent⟩
    rintro ⟨rfl, rfl⟩
    rfl

namespace Start

/-- The search opens the same variables that the walk meets, each one as often. -/
theorem perm_declared (start : Start) :
    (start.declared.map Prod.snd).Perm (start.walk.filterMap Visit.declarator?) := by
  let met := chosen Visit.declarator? (start.addresses.zip start.walk)
  have isMet : met.map Prod.snd = start.walk.filterMap Visit.declarator? := by
    rw [map_snd_chosen, map_snd_occurrences]
  have nodup : (met.map Prod.fst).Nodup := by
    refine (map_fst_chosen_sublist _ _).nodup ?_
    rw [map_fst_occurrences]
    exact start.piece.nodup_addresses
  have same : start.declared.Perm met := by
    refine (List.perm_ext_iff_of_nodup (start.nodup_declared.of_map _) (nodup.of_map _)).mpr ?_
    rintro ⟨address, declarator⟩
    rw [mem_declared_iff, mem_chosen_iff]
    simp only [Visit.declarator?_eq_some_iff, Offers]
  exact isMet ▸ same.map Prod.snd

/-- The search for a name returns the first values of the variables that the walk meets as
those of a declaration, that are bound by just this name and that have a first value. Each of
them counts once: the values belong to distinct addresses, and exactly the addresses of these
variables are among them. The order differs from that of the walk, because the search comes to
all the variables of a declaration before it comes to what is nested in their values. -/
theorem each_variable_counts_once (start : Start) (name : String) :
    (start.initialValuesNamed name).Perm
      ((start.walk.filterMap Visit.declarator?).filterMap (Declarator.initialOf? name)) ∧
    ∃ found : List (Address × Expr),
      start.initialValuesNamed name = found.map Prod.snd ∧
      (found.map Prod.fst).Nodup ∧
      (found.map Prod.fst).Pairwise DeclaredBefore ∧
      ∀ address value, (address, value) ∈ found ↔
        ∃ visit types, start.Offers address visit ∧
          visit.node = .variableDeclarator (.mk (.name name types) (some value)) ∧
          visit.parent = some .variableDeclaration := by
  have opened : start.initialValuesNamed name =
      (start.declared.map Prod.snd).filterMap (Declarator.initialOf? name) := by
    rw [initialValuesNamed_eq, map_snd_declared]
  let found := chosen (Declarator.initialOf? name) start.declared
  have addresses : (found.map Prod.fst).Sublist (start.declared.map Prod.fst) :=
    map_fst_chosen_sublist _ _
  refine ⟨opened ▸ start.perm_declared.filterMap _, found, ?_, ?_, ?_, ?_⟩
  · rw [opened, map_snd_chosen]
  · exact addresses.nodup start.nodup_declared
  · exact start.pairwise_declared.sublist addresses
  · intro address value
    rw [mem_chosen_iff]
    simp only [mem_declared_iff, Declarator.initialOf?_eq_some_iff]
    constructor
    · rintro ⟨_, ⟨visit, offered, isHeld, isParent⟩, types, rfl⟩
      exact ⟨visit, types, offered, isHeld, isParent⟩
    · rintro ⟨visit, types, offered, isHeld, isParent⟩
      exact ⟨_, ⟨visit, offered, isHeld, isParent⟩, types, rfl⟩

-- `var a = () => { var a = 1; }, a = b;`: the nested declaration is opened last
example :
    let nested := Node.variableDeclaration .functionScoped
      [.mk (.name "a" []) (some (.other .numeric []))]
    let declaration := Node.variableDeclaration .functionScoped
      [.mk (.name "a" []) (some (.node (.arrow false [] [.node nested]))),
       .mk (.name "a" []) (some (.node (.identifier "b")))]
    ((Start.node declaration).initialValuesNamed "a").map Expr.shape =
      ["ArrowFunctionExpression", "Identifier", "NumericLiteral"] := by
  decide

end Start

end DirectiveScan
