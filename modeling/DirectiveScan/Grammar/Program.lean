import DirectiveScan.Grammar.Module

namespace DirectiveScan

/-! Whole programs: the rules of the grammar put together. -/

namespace Grammar

/-- The parser of a rule, given parsers for the rules it calls. -/
def step (rules : Rules) : {α : Type} → Rule α → Parser α
  | _, .expression => expression rules
  | _, .assignment => assignment rules
  | _, .operand level => operand rules level
  | _, .unary => unary rules
  | _, .constructed => constructed rules
  | _, .superclass => superclassExpression rules
  | _, .target => target rules
  | _, .statement => statement rules
  | _, .item => item rules
  | _, .type => type rules
  | _, .element start => element rules start

/-- The rules, with calls nested at most to a depth. -/
def rulesTo : Nat → {α : Type} → Rule α → Parser α
  | 0, _, _ => Parser.unexpected
  | depth + 1, _, rule => step ⟨rulesTo depth⟩ rule

/-- Rules that can be entered, one in another, without reading a character. -/
def rulesPerCharacter : Nat := 16

/-- The rules for a text: between two calls of the same rule a character is read,
which bounds how deep calls nest. -/
def rulesFor (text : SourceText) : Rules := ⟨rulesTo (rulesPerCharacter * (text.size + 2))⟩

/-- The items of a program up to the end of the text. -/
def items (rules : Rules) : Parser (List Part) :=
  itemsUntil Parser.isEnd (rules.apply .item) true

end Grammar

namespace Program

/-- Read a program, or find the offset of its first mistake. A mistake that stops
the parser comes before those that do not. -/
def read (dialect : Dialect) (text : SourceText) : Except Fault Program :=
  let start : Cursor :=
    { lexeme := Lexeme.scan text 0
      previousStart := 0
      previousStop := 0
      faults := #[]
      strictFaults := #[]
      patternFaults := #[]
      isModule := false }
  match Grammar.items (Grammar.rulesFor text) { text, dialect } start with
  | .error fault => .error fault
  | .ok (items, cursor) =>
      let isModule := cursor.isModule || items.any Grammar.isModuleItem
      let late := if isModule then cursor.strictFaults else #[]
      match (cursor.faults ++ cursor.lexeme.faults.toArray ++ cursor.patternFaults ++ late)[0]? with
      | some offset => .error ⟨offset⟩
      | none => .ok ⟨if isModule then .module else .script, items⟩

end Program

end DirectiveScan
