import DirectiveScan.Query.Field
import Mathlib.Algebra.Group.Nat.Defs

namespace DirectiveScan

/-! Paths of fields, one behind the other.

A path is followed from a field, and a longer path goes on from where its front part leads.
How it goes on depends only on what is found there: nodes are asked for further fields, lists
for an item, unmodeled parts for their tag, and plain data for nothing. -/

/-! ## Indices -/

/-- How an index is written: in decimal digits, leading zeros included, with or without a plus
sign, as long as the number fits 64 bits. -/
def WritesIndex (segment : String) (index : Nat) : Prop :=
  ∃ digits, (segment.toList = digits ∨ segment.toList = '+' :: digits) ∧ digits ≠ [] ∧
    (∀ digit ∈ digits, digit.isDigit = true) ∧ Nat.ofDigitChars 10 digits 0 = index ∧
    index < 2 ^ 64

def withoutSign (characters : List Char) : List Char :=
  match characters with
  | '+' :: rest => rest
  | all => all

theorem withoutSign_or (characters : List Char) :
    characters = withoutSign characters ∨ characters = '+' :: withoutSign characters := by
  unfold withoutSign
  split
  · exact .inr rfl
  · exact .inl rfl

theorem withoutSign_of_digits {digits : List Char}
    (areDigits : ∀ digit ∈ digits, digit.isDigit = true) : withoutSign digits = digits := by
  unfold withoutSign
  split
  · next rest => exact absurd (areDigits '+' List.mem_cons_self) (by decide)
  · rfl

theorem listIndex?_eq_some_iff_digits (segment : String) (index : Nat) :
    listIndex? segment = some index ↔
      withoutSign segment.toList ≠ [] ∧
      (∀ digit ∈ withoutSign segment.toList, digit.isDigit = true) ∧
      Nat.ofDigitChars 10 (withoutSign segment.toList) 0 = index ∧ index < 2 ^ 64 := by
  have read : listIndex? segment =
      if (withoutSign segment.toList).isEmpty || !(withoutSign segment.toList).all Char.isDigit
      then none
      else if Nat.ofDigitChars 10 (withoutSign segment.toList) 0 < 2 ^ 64
      then some (Nat.ofDigitChars 10 (withoutSign segment.toList) 0) else none := by
    have value (digits : List Char) :
        digits.foldl (fun total digit => total * 10 + (digit.toNat - 48)) 0 =
          Nat.ofDigitChars 10 digits 0 := by
      simp [Nat.ofDigitChars, Nat.mul_comm]
    simp only [← value]
    rfl
  rw [read]
  generalize withoutSign segment.toList = digits
  by_cases noDigits : digits = []
  · simp [noDigits]
  · by_cases areDigits : ∀ digit ∈ digits, digit.isDigit = true
    · have isRead : (digits.isEmpty || !digits.all Char.isDigit) = false := by
        simpa [noDigits] using areDigits
      rw [isRead]
      grind
    · have notRead : (digits.isEmpty || !digits.all Char.isDigit) = true := by
        simpa [noDigits] using areDigits
      simp [notRead, areDigits]

theorem listIndex?_eq_some_iff (segment : String) (index : Nat) :
    listIndex? segment = some index ↔ WritesIndex segment index := by
  rw [listIndex?_eq_some_iff_digits]
  constructor
  · intro written
    exact ⟨withoutSign segment.toList, withoutSign_or _, written⟩
  · rintro ⟨digits, isWritten, written⟩
    have isDigits : withoutSign segment.toList = digits := by
      rcases isWritten with plain | signed
      · rw [plain, withoutSign_of_digits written.2.1]
      · rw [signed]
        rfl
    rw [isDigits]
    exact written

/-! ## Going on -/

namespace Field

/-- Follow a path of names divided by points from any field. -/
def deepField? (field : Field) (path : String) : Option Field :=
  field.follow? (Text.split '.' path)

/-- A longer path goes on from where its front part leads. -/
theorem deepField?_append (field : Field) (path further : String) :
    field.deepField? (path ++ "." ++ further) =
      (field.deepField? path).bind (·.deepField? further) := by
  rw [deepField?, Text.split_append rfl, follow?, List.foldlM_append]
  rfl

theorem deepField?_segment (field : Field) {segment : String} (free : '.' ∉ segment.toList) :
    field.deepField? segment = field.step? segment := by
  rw [deepField?, Text.split_of_not_mem free, follow?, List.foldlM_cons]
  exact Option.bind_fun_some _

/-- A path is a segment, or goes on behind its first one. -/
theorem segment_or (path : String) :
    '.' ∉ path.toList ∨
      ∃ segment rest, '.' ∉ segment.toList ∧ path = segment ++ "." ++ rest := by
  by_cases divided : '.' ∈ path.toList
  · rcases List.eq_append_cons_of_mem divided with ⟨front, rest, isPath, notBefore⟩
    refine .inr ⟨String.ofList front, String.ofList rest, by simpa using notBefore, ?_⟩
    apply String.toList_injective
    simp [isPath]
  · exact .inl divided

/-- A field from which no segment leads on is the end of every path. -/
theorem deepField?_of_end {field : Field} (isEnd : ∀ segment, field.step? segment = none)
    (path : String) : field.deepField? path = none := by
  rcases segment_or path with free | ⟨segment, rest, free, rfl⟩
  · rw [deepField?_segment field free, isEnd]
  · rw [deepField?_append, deepField?_segment field free, isEnd, Option.bind_none]

/-- Only its tag is known of an unmodeled part, and a tag is plain data. -/
theorem deepField?_unmodeled_eq_some_iff (tag path : String) (next : Field) :
    (unmodeled tag).deepField? path = some next ↔ path = "type" ∧ next = .text tag := by
  have atSegment (segment : String) (free : '.' ∉ segment.toList) :
      (unmodeled tag).deepField? segment = if segment = "type" then some (.text tag) else none :=
    deepField?_segment _ free
  rcases segment_or path with free | ⟨segment, rest, free, rfl⟩
  · rw [atSegment path free]
    split
    · next isType => simp [isType, eq_comm]
    · next noType => simp [noType]
  · have notType : segment ++ "." ++ rest ≠ "type" := by
      intro isType
      have point : '.' ∈ (segment ++ "." ++ rest).toList := by simp
      rw [isType] at point
      exact absurd point (by decide)
    -- Even behind `type`, a tag is a text, from which nothing leads on.
    rw [deepField?_append, atSegment segment free]
    split
    · simp [notType, deepField?_of_end (fun _ => rfl : ∀ other, (text tag).step? other = none)]
    · simp [notType]

theorem deepField?_item {items : List Field} {item : Field} {segment : String} {index : Nat}
    (free : '.' ∉ segment.toList) (written : WritesIndex segment index)
    (isItem : items[index]? = some item) : (list items).deepField? segment = some item := by
  rw [deepField?_segment _ free, step?, (listIndex?_eq_some_iff segment index).mpr written]
  exact isItem

theorem deepField?_no_item {items : List Field} {segment : String} (free : '.' ∉ segment.toList)
    (noItem : ∀ index < items.length, ¬WritesIndex segment index) :
    (list items).deepField? segment = none := by
  rw [deepField?_segment _ free, step?, Option.bind_eq_none_iff]
  intro index written
  rw [List.getElem?_eq_none_iff]
  apply Nat.le_of_not_lt
  intro inside
  exact noItem index inside ((listIndex?_eq_some_iff segment index).mp written)

/-- The shape of an expression that is a node has the tag of the node's kind. -/
theorem shape_node (node : Node) : (Expr.node node).shape = node.kind.tag := by
  cases node <;> rfl

/-- The tag of a node that is an expression is the tag of the expression's shape. -/
theorem deepField?_ofExpr_type (expr : Expr) :
    (ofExpr expr).deepField? "type" = some (.text expr.shape) := by
  rw [deepField?_segment _ (by decide)]
  cases expr with
  | node found =>
      rw [shape_node]
      rfl
  | wrapped wrapper inner types => rfl
  | other form parts => rfl

end Field

namespace Node

/-- A path behind another one is followed from what is found at the end of the first. -/
theorem field_paths_compose (found : Node) (path further : String) :
    (found.deepField? path = none → found.deepField? (path ++ "." ++ further) = none) ∧
    (∀ next, found.deepField? path = some (.node next) →
      found.deepField? (path ++ "." ++ further) = next.deepField? further) ∧
    (∀ items segment, found.deepField? path = some (.list items) → '.' ∉ segment.toList →
      (∀ index item, WritesIndex segment index → items[index]? = some item →
        found.deepField? (path ++ "." ++ segment) = some item ∧
        ∀ rest, found.deepField? (path ++ "." ++ (segment ++ "." ++ rest)) =
          item.deepField? rest) ∧
      ((∀ index < items.length, ¬WritesIndex segment index) →
        found.deepField? (path ++ "." ++ segment) = none ∧
        ∀ rest, found.deepField? (path ++ "." ++ (segment ++ "." ++ rest)) = none)) ∧
    (∀ data, found.deepField? path = some data →
      (∃ text, data = .text text) ∨ (∃ value, data = .boolean value) ∨ data = .hole →
        found.deepField? (path ++ "." ++ further) = none) ∧
    (∀ tag, found.deepField? path = some (.unmodeled tag) →
      ∀ next, found.deepField? (path ++ "." ++ further) = some next ↔
        further = "type" ∧ next = .text tag) ∧
    (∀ expr, found.deepField? path = some (.ofExpr expr) →
      found.deepField? (path ++ "." ++ "type") = some (.text expr.shape)) := by
  have goesOn (further : String) : found.deepField? (path ++ "." ++ further) =
      (found.deepField? path).bind (·.deepField? further) :=
    Field.deepField?_append (.node found) path further
  refine ⟨fun missing => ?_, fun next isNode => ?_, fun items segment isList free => ⟨?_, ?_⟩,
    fun data isData plain => ?_, fun tag isUnmodeled next => ?_, fun expr isExpr => ?_⟩
  · rw [goesOn, missing, Option.bind_none]
  · rw [goesOn, isNode]
    rfl
  · intro index item written isItem
    have atItem := Field.deepField?_item free written isItem
    refine ⟨?_, fun rest => ?_⟩
    · rw [goesOn, isList, Option.bind_some, atItem]
    · rw [goesOn, isList, Option.bind_some, Field.deepField?_append, atItem, Option.bind_some]
  · intro noItem
    have atEnd := Field.deepField?_no_item free noItem
    refine ⟨?_, fun rest => ?_⟩
    · rw [goesOn, isList, Option.bind_some, atEnd]
    · rw [goesOn, isList, Option.bind_some, Field.deepField?_append, atEnd, Option.bind_none]
  · rw [goesOn, isData, Option.bind_some]
    refine Field.deepField?_of_end (fun segment => ?_) further
    rcases plain with ⟨text, rfl⟩ | ⟨value, rfl⟩ | rfl <;> rfl
  · rw [goesOn, isUnmodeled, Option.bind_some, Field.deepField?_unmodeled_eq_some_iff]
  · rw [goesOn, isExpr, Option.bind_some, Field.deepField?_ofExpr_type]

-- `f(1, [a])`: the second argument under an index with a sign and a leading zero
example :
    (Node.call 0 (.expr (.node (.identifier "f")))
      [.other .numeric [], .node (.array [.value (.node (.identifier "a"))])] []).deepText?
        "arguments.+01.elements.0.name" = some "a" := by
  decide

end Node

end DirectiveScan
