import DirectiveScan.Proofs.Query.Field
import DirectiveScan.Proofs.Query.FieldPath
import DirectiveScan.Proofs.Query.Standing
import Mathlib.Algebra.Group.Nat.Defs

namespace DirectiveScan

/-! Slots of nodes.

A slot holds one of the immediate pieces of a node. What takes the role of the slot on a
walk is the filling of this piece, and the path of the slot leads to the same filling. -/

/-! ## Slots -/

/-- The slots that have a field of their own. -/
inductive Slot where
  | callee
  | argument (index : Nat)
  | object
  | property
  | key
  | value
  | element (index : Nat)

namespace Slot

/-- The path of the field of a slot. -/
def path : Slot → String
  | callee => "callee"
  | argument index => "arguments" ++ "." ++ toString index
  | object => "object"
  | property => "property"
  | key => "key"
  | value => "value"
  | element index => "elements" ++ "." ++ toString index

/-- The role of what fills a slot. -/
def role : Slot → Role
  | callee => .callee
  | argument index => .argument index
  | object => .object
  | property => .property
  | key => .key
  | value => .value
  | element index => .element index

/-- Which immediate piece of a node is in a slot. -/
def index : Slot → Nat
  | callee | object | key => 0
  | argument index => index + 1
  | property | value => 1
  | element index => index

/-- The indices of a path are machine words. -/
def FitsWord : Slot → Prop
  | argument index | element index => index < 2 ^ 64
  | _ => True

theorem role_ne_nested (slot : Slot) : slot.role ≠ .nested := by
  cases slot <;> simp [role]

end Slot

/-- The piece in a slot of a node. -/
def Node.inSlot? : Node → Slot → Option Piece
  | .call _ callee _ _, .callee => some (.callee callee)
  | .call _ _ arguments _, .argument index => arguments[index]?.map .expr
  | .member owner _, .object => some (.expr owner)
  | .member _ last, .property => some (.memberName last)
  | .property key _, .key => some (.key key)
  | .property _ value, .value => some (.expr value)
  | .array elements, .element index => elements[index]?.map .element
  | _, _ => none

/-- The pieces that have the role of a slot are the pieces in the slot. -/
theorem Node.inSlot?_eq_some_iff (found : Node) (slot : Slot) (piece : Piece) (index : Nat) :
    found.pieces[index]? = some piece ∧ found.roleAt index = slot.role ↔
      found.inSlot? slot = some piece ∧ index = slot.index := by
  cases found with
  | call start callee arguments types =>
      cases index with
      | zero => cases slot <;> simp [Node.pieces, Node.roleAt, Node.inSlot?, Slot.role, Slot.index]
      | succ index =>
          by_cases isArgument : index < arguments.length
          · have atIndex : (Node.call start callee arguments types).pieces[index + 1]? =
                arguments[index]?.map .expr := by
              rw [Node.pieces, List.getElem?_cons_succ, List.getElem?_append_left (by simpa),
                List.getElem?_map]
            rw [atIndex, Node.roleAt, if_pos isArgument]
            cases slot <;> simp [Node.inSlot?, Slot.role, Slot.index]
            rintro rfl
            exact Iff.rfl
          · rw [Node.roleAt, if_neg isArgument]
            have noRole := slot.role_ne_nested.symm
            cases slot <;> simp [Node.inSlot?, Slot.index, noRole]
            rintro value isValue rfl rfl
            exact isArgument (List.getElem?_eq_some_iff.mp isValue).1
  | member owner last =>
      rcases index with _ | _ | index <;> cases slot <;>
        simp [Node.pieces, Node.roleAt, Node.inSlot?, Slot.role, Slot.index]
  | property key value =>
      rcases index with _ | _ | index <;> cases slot <;>
        simp [Node.pieces, Node.roleAt, Node.inSlot?, Slot.role, Slot.index]
  | array elements =>
      cases slot <;> simp [Node.pieces, Node.roleAt, Node.inSlot?, Slot.role, Slot.index]
      rintro rfl
      exact Iff.rfl
  | _ =>
      cases slot <;> simp [Node.roleAt, Node.inSlot?, Slot.role]

/-! ## What takes the role of a slot -/

/-- The nearest node above lies outside of the piece that stands so. -/
def Standing.Fresh (standing : Standing) : Prop :=
  ∀ above, standing.above = some above → above.1.length < standing.here.length

namespace Piece

theorem fresh_handDown {standing : Standing} (fresh : standing.Fresh) (piece : Piece)
    (index : Nat) : (piece.handDown standing index).Fresh := by
  intro above isAbove
  cases piece with
  | node found =>
      cases isAbove
      simp [handDown]
  | _ =>
      have outside := fresh above isAbove
      simp only [handDown, List.length_append, List.length_singleton]
      omega

/-- The nearest node above stays the same or lies inside of the piece. -/
theorem above_of_reach {piece found : Piece} {standing reached : Standing} {address : Address}
    (holds : piece.reach standing address = some (found, reached)) :
    reached.above = standing.above ∨
      ∃ above, reached.above = some above ∧ standing.here.length ≤ above.1.length := by
  induction address generalizing piece standing with
  | nil =>
      cases holds
      exact .inl rfl
  | cons index rest induction =>
      rcases Option.bind_eq_some_iff.mp holds with ⟨child, _, holds⟩
      rcases induction holds with same | ⟨above, isAbove, inside⟩
      · cases piece with
        | node around => exact .inr ⟨(standing.here, around), same, Nat.le_refl _⟩
        | _ => exact .inl same
      · refine .inr ⟨above, isAbove, ?_⟩
        simp only [handDown, List.length_append, List.length_singleton] at inside
        omega

/-- Below a node, the node or one inside of it is the nearest. -/
theorem above_ne_of_reach_node {around : Node} {found : Piece} {standing reached : Standing}
    {index : Nat} {rest : Address} (fresh : standing.Fresh)
    (holds : (Piece.node around).reach standing (index :: rest) = some (found, reached)) :
    reached.above ≠ standing.above := by
  intro same
  rcases Option.bind_eq_some_iff.mp holds with ⟨child, _, holds⟩
  have inside : ∃ above, reached.above = some above ∧
      standing.here.length ≤ above.1.length := by
    rcases above_of_reach holds with isAround | ⟨above, isAbove, inside⟩
    · exact ⟨(standing.here, around), isAround, Nat.le_refl _⟩
    · refine ⟨above, isAbove, ?_⟩
      simp only [handDown, List.length_append, List.length_singleton] at inside
      omega
  rcases inside with ⟨above, isAbove, inside⟩
  have outside := fresh above (same ▸ isAbove)
  omega

/-- Down to the next node a role is handed on or used up. -/
theorem role_of_reach {piece found : Piece} {standing reached : Standing} {address : Address}
    (fresh : standing.Fresh)
    (holds : piece.reach standing address = some (found, reached))
    (same : reached.above = standing.above) :
    reached.role = standing.role ∨ reached.role = .nested := by
  induction address generalizing piece standing with
  | nil =>
      cases holds
      exact .inl rfl
  | cons index rest induction =>
      cases own : piece.own with
      | cons around _ =>
          cases piece with
          | node around => exact absurd same (above_ne_of_reach_node fresh holds)
          | _ => cases own
      | nil =>
          rcases Option.bind_eq_some_iff.mp holds with ⟨child, _, holds⟩
          have sameBelow : reached.above = (piece.handDown standing index).above := by
            cases piece with
            | node around => cases own
            | _ => exact same
          rcases induction (fresh_handDown fresh piece index) holds sameBelow with kept | nested
          · rw [kept]
            exact roleAt_of_own_eq_nil own standing.role index
          · exact .inr nested

/-- What takes the role of a piece, with the way to it. A piece around a single piece
hands its role on, and an expression that is no node uses it up. -/
def filling? : Piece → Option (Address × Node)
  | .node found => some ([], found)
  | .expr (.node found) => some ([0], found)
  | .callee (.expr (.node found)) => some ([0, 0], found)
  | .memberName (.name word) => some ([0], .identifier word)
  | .memberName (.computed (.node found)) => some ([0, 0], found)
  | .key (.name word) => some ([0], .identifier word)
  | .key (.string text) => some ([0], .string text)
  | .key (.computed (.node found)) => some ([0, 0], found)
  | .element (.value (.node found)) | .element (.spread (.node found)) => some ([0, 0], found)
  | _ => none

/-- Whether exactly the filling of a piece takes its role. -/
def FilledExactly (piece : Piece) : Prop :=
  ∀ (standing : Standing) (address : Address) (held : Node), standing.Fresh →
    standing.role ≠ .nested →
    (piece.reach standing address =
        some (.node held, ⟨standing.here ++ address, standing.role, standing.above⟩) ↔
      piece.filling? = some (address, held))

theorem filledExactly_node (found : Node) : (Piece.node found).FilledExactly := by
  intro standing address held fresh _
  constructor
  · intro holds
    cases address with
    | nil =>
        cases (Prod.mk.inj (Option.some.inj holds)).1
        rfl
    | cons index rest =>
        have moved := above_ne_of_reach_node fresh holds
        exact absurd rfl moved
  · intro isFilling
    cases isFilling
    simp [reach]

theorem filledExactly_of_children_eq_nil {piece : Piece} (empty : piece.children = [])
    (noNode : piece.own = []) (noFilling : piece.filling? = none) : piece.FilledExactly := by
  intro standing address held _ _
  rw [noFilling]
  refine ⟨fun holds => ?_, fun none => by cases none⟩
  cases address with
  | nil =>
      cases piece with
      | node found => cases noNode
      | _ => cases holds
  | cons index rest =>
      rw [reach, empty] at holds
      cases holds

theorem filledExactly_around {piece inner : Piece} (around : piece.children = [inner])
    (noNode : piece.own = []) (handsOn : ∀ role, piece.roleAt role 0 = role)
    (filling : piece.filling? = inner.filling?.map fun filling => (0 :: filling.1, filling.2))
    (filled : inner.FilledExactly) : piece.FilledExactly := by
  intro standing address held fresh hasRole
  have handed : piece.handDown standing 0 =
      ⟨standing.here ++ [0], standing.role, standing.above⟩ := by
    cases piece with
    | node found => cases noNode
    | _ => simp [handDown, handsOn, aboveBelow]
  have freshBelow := handed ▸ fresh_handDown fresh piece 0
  rw [filling, Option.map_eq_some_iff]
  rcases address with _ | ⟨_ | index, rest⟩
  · constructor
    · intro holds
      cases piece with
      | node found => cases noNode
      | _ => cases holds
    · rintro ⟨_, _, same⟩
      cases same
  · have step : piece.reach standing (0 :: rest) =
        inner.reach ⟨standing.here ++ [0], standing.role, standing.above⟩ rest := by
      rw [reach, around, handed]
      rfl
    rw [step, List.append_cons standing.here 0 rest]
    refine (filled _ rest held freshBelow hasRole).trans ?_
    constructor
    · intro isFilling
      exact ⟨_, isFilling, rfl⟩
    · rintro ⟨⟨_, _⟩, isFilling, same⟩
      cases same
      exact isFilling
  · constructor
    · intro holds
      rw [reach, around] at holds
      cases holds
    · rintro ⟨_, _, same⟩
      cases same

theorem filledExactly_of_uses_up {piece : Piece} (noNode : piece.own = [])
    (usesUp : ∀ role index, piece.roleAt role index = .nested)
    (noFilling : piece.filling? = none) : piece.FilledExactly := by
  intro standing address held fresh hasRole
  rw [noFilling]
  refine ⟨fun holds => ?_, fun none => by cases none⟩
  cases address with
  | nil =>
      cases piece with
      | node found => cases noNode
      | _ => cases holds
  | cons index rest =>
      rcases Option.bind_eq_some_iff.mp holds with ⟨child, _, below⟩
      have sameAbove : standing.above = (piece.handDown standing index).above := by
        cases piece with
        | node found => cases noNode
        | _ => rfl
      have used := role_of_reach (fresh_handDown fresh piece index) below sameAbove
      simp only [handDown, usesUp, or_self] at used
      exact absurd used hasRole

theorem filledExactly_expr (inner : Expr) : (Piece.expr inner).FilledExactly := by
  cases inner with
  | node found => exact filledExactly_around rfl rfl (fun _ => rfl) rfl (filledExactly_node found)
  | wrapped wrapper inner types => exact filledExactly_of_uses_up rfl (fun _ _ => rfl) rfl
  | other shape parts => exact filledExactly_of_uses_up rfl (fun _ _ => rfl) rfl

theorem filledExactly_callee (called : Callee) : (Piece.callee called).FilledExactly := by
  cases called with
  | expr called =>
      refine filledExactly_around rfl rfl (fun _ => rfl) ?_ (filledExactly_expr called)
      cases called <;> rfl
  | superClass => exact filledExactly_of_children_eq_nil rfl rfl rfl
  | moduleImport => exact filledExactly_of_children_eq_nil rfl rfl rfl

theorem filledExactly_memberName (name : MemberName) :
    (Piece.memberName name).FilledExactly := by
  cases name with
  | name word => exact filledExactly_around rfl rfl (fun _ => rfl) rfl (filledExactly_node _)
  | privateName word => exact filledExactly_of_children_eq_nil rfl rfl rfl
  | computed inner =>
      refine filledExactly_around rfl rfl (fun _ => rfl) ?_ (filledExactly_expr inner)
      cases inner <;> rfl

theorem filledExactly_key (word : PropertyKey) : (Piece.key word).FilledExactly := by
  cases word with
  | name word => exact filledExactly_around rfl rfl (fun _ => rfl) rfl (filledExactly_node _)
  | string text => exact filledExactly_around rfl rfl (fun _ => rfl) rfl (filledExactly_node _)
  | number value => exact filledExactly_of_children_eq_nil rfl rfl rfl
  | bigInt => exact filledExactly_of_children_eq_nil rfl rfl rfl
  | computed inner =>
      refine filledExactly_around rfl rfl (fun _ => rfl) ?_ (filledExactly_expr inner)
      cases inner <;> rfl

theorem filledExactly_element (one : Element) : (Piece.element one).FilledExactly := by
  cases one with
  | hole => exact filledExactly_of_children_eq_nil rfl rfl rfl
  | value inner =>
      refine filledExactly_around rfl rfl (fun _ => rfl) ?_ (filledExactly_expr inner)
      cases inner <;> rfl
  | spread inner =>
      refine filledExactly_around rfl rfl (fun _ => rfl) ?_ (filledExactly_expr inner)
      cases inner <;> rfl

end Piece

theorem Node.filledExactly_of_inSlot? {found : Node} {slot : Slot} {piece : Piece}
    (isInSlot : found.inSlot? slot = some piece) : piece.FilledExactly := by
  unfold Node.inSlot? at isInSlot
  split at isInSlot
  · cases isInSlot
    exact Piece.filledExactly_callee _
  · rcases Option.map_eq_some_iff.mp isInSlot with ⟨value, _, rfl⟩
    exact Piece.filledExactly_expr value
  · cases isInSlot
    exact Piece.filledExactly_expr _
  · cases isInSlot
    exact Piece.filledExactly_memberName _
  · cases isInSlot
    exact Piece.filledExactly_key _
  · cases isInSlot
    exact Piece.filledExactly_expr _
  · rcases Option.map_eq_some_iff.mp isInSlot with ⟨element, _, rfl⟩
    exact Piece.filledExactly_element element
  · cases isInSlot

/-! ## Fields of slots -/

/-- The field of a piece in a slot. -/
def Piece.field : Piece → Field
  | .node found => .node found
  | .expr inner => .ofExpr inner
  | .callee called => .ofCallee called
  | .memberName name => .ofMemberName name
  | .key word => .ofKey word
  | .element one => .ofElement one
  | .entry _ | .target _ | .part _ => .hole

theorem Piece.field_eq_node_iff (piece : Piece) (held : Node) :
    piece.field = .node held ↔ ∃ way, piece.filling? = some (way, held) := by
  cases piece with
  | node found => simp [field, filling?]
  | expr inner => cases inner <;> simp [field, filling?, Field.ofExpr]
  | callee called =>
      rcases called with inner | _ | _
      · cases inner <;> simp [field, filling?, Field.ofCallee, Field.ofExpr]
      all_goals simp [field, filling?, Field.ofCallee]
  | memberName name =>
      rcases name with word | word | inner
      · simp [field, filling?, Field.ofMemberName]
      · simp [field, filling?, Field.ofMemberName]
      · cases inner <;> simp [field, filling?, Field.ofMemberName, Field.ofExpr]
  | key word =>
      rcases word with word | text | value | _ | inner
      case computed => cases inner <;> simp [field, filling?, Field.ofKey, Field.ofExpr]
      all_goals simp [field, filling?, Field.ofKey]
  | element one =>
      rcases one with _ | inner | inner
      · simp [field, filling?, Field.ofElement]
      · cases inner <;> simp [field, filling?, Field.ofElement, Field.ofExpr]
      · cases inner <;> simp [field, filling?, Field.ofElement, Field.ofExpr]
  | entry one => simp [field, filling?]
  | target one => simp [field, filling?]
  | part one => simp [field, filling?]

/-! ## Paths of slots -/

theorem isDigit_of_mem_toString {index : Nat} {character : Char}
    (member : character ∈ (toString index).toList) : character.isDigit = true := by
  have digits : (toString index).toList = Nat.toDigits 10 index := Nat.toList_repr
  exact Nat.isDigit_of_mem_toDigits (by decide) (by decide) (digits ▸ member)

theorem listIndex?_toString {index : Nat} (fits : index < 2 ^ 64) :
    listIndex? (toString index) = some index := by
  have digits : (toString index).toList = Nat.toDigits 10 index := Nat.toList_repr
  refine (listIndex?_eq_some_iff _ _).mpr
    ⟨_, .inl rfl, ?_, fun _ => isDigit_of_mem_toString, ?_, fits⟩
  · rw [digits]
    exact Nat.toDigits_ne_nil
  · rw [digits]
    exact Nat.ofDigitChars_toDigits (by decide) (by decide)

/-- An index behind a word is a segment of its own. -/
theorem split_word_index {word : String} (free : '.' ∉ word.toList) (index : Nat) :
    Text.split '.' (word ++ "." ++ toString index) = [word, toString index] := by
  have noPoint : '.' ∉ (toString index).toList := by
    intro member
    exact absurd (isDigit_of_mem_toString member) (by decide)
  rw [Text.split_append rfl, Text.split_of_not_mem free, Text.split_of_not_mem noPoint]
  rfl

theorem Field.step?_toString (items : List Field) {index : Nat} (fits : index < 2 ^ 64) :
    (list items).step? (toString index) = items[index]? := by
  rw [step?, listIndex?_toString fits]
  rfl

namespace Node

theorem deepField?_word (found : Node) {word : String} (cut : Text.split '.' word = [word])
    (noType : word ≠ "type") : found.deepField? word = found.ownField? word := by
  rw [deepField?, cut, Field.follow?, List.foldlM_cons, Field.step?, field?, if_neg noType]
  exact Option.bind_fun_some _

theorem deepField?_word_index (found : Node) {word : String} (free : '.' ∉ word.toList)
    (noType : word ≠ "type") (index : Nat) :
    found.deepField? (word ++ "." ++ toString index) =
      (found.ownField? word).bind (·.step? (toString index)) := by
  rw [deepField?, split_word_index free, Field.follow?, List.foldlM_cons, Field.step?, field?,
    if_neg noType]
  refine congrArg _ (funext fun next => ?_)
  exact Option.bind_fun_some _

/-- The path of a slot leads to a node exactly if the node fills the slot. -/
theorem deepField?_slot_eq_node_iff (found : Node) {slot : Slot} (fits : slot.FitsWord)
    (held : Node) :
    found.deepField? slot.path = some (.node held) ↔
      ∃ piece way, found.inSlot? slot = some piece ∧ piece.filling? = some (way, held) := by
  simp only [exists_and_left, ← Piece.field_eq_node_iff]
  cases slot with
  | callee =>
      rw [Slot.path, deepField?_word found (by decide) (by decide), ownField?_callee_eq_some_iff]
      cases found <;> simp [inSlot?, Piece.field]
  | argument index =>
      rw [Slot.path, deepField?_word_index found (by decide) (by decide),
        Option.bind_eq_some_iff]
      simp only [ownField?_arguments_eq_some_iff]
      cases found <;> simp [-Nat.toString_eq_repr, inSlot?, Piece.field, Field.step?_toString _ fits]
  | object =>
      rw [Slot.path, deepField?_word found (by decide) (by decide), ownField?_object_eq_some_iff]
      cases found <;> simp [inSlot?, Piece.field]
  | property =>
      rw [Slot.path, deepField?_word found (by decide) (by decide), ownField?_property_eq_some_iff]
      cases found <;> simp [inSlot?, Piece.field]
  | key =>
      rw [Slot.path, deepField?_word found (by decide) (by decide), ownField?_key_eq_some_iff]
      cases found <;> simp [inSlot?, Piece.field]
  | value =>
      rw [Slot.path, deepField?_word found (by decide) (by decide), ownField?_value_eq_node_iff]
      cases found <;> simp [inSlot?, Piece.field]
  | element index =>
      rw [Slot.path, deepField?_word_index found (by decide) (by decide),
        Option.bind_eq_some_iff]
      simp only [ownField?_elements_eq_some_iff]
      cases found <;> simp [-Nat.toString_eq_repr, inSlot?, Piece.field, Field.step?_toString _ fits]

end Node

end DirectiveScan
