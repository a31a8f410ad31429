import DirectiveScan.Grammar.Parser
import DirectiveScan.Tree.Pattern

namespace DirectiveScan

/-! The grammar is a family of parsers that call each other. Each parser is
written on its own and reaches the others through the names in this module, so
no definition refers to itself; the family is closed up at the end by bounding
how deep the calls may nest. -/

/-- An operand of a binary operator, with what decides which operators may
surround it. -/
structure Operand where
  expr : Expr
  start : Nat
  /-- The operator at the top, if the operand is not in parentheses. -/
  operator : Option String

/-- The parsers that others call. -/
inductive Rule : Type → Type where
  /-- Expressions divided by commas. -/
  | expression : Rule Expr
  /-- An expression without commas. -/
  | assignment : Rule Expr
  /-- Operators that bind stronger than a level. -/
  | operand (level : Nat) : Rule Operand
  | unary : Rule Operand
  /-- What `new` creates. -/
  | constructed : Rule Expr
  /-- What a class extends. -/
  | superclass : Rule Expr
  /-- The target of a declaration, parameter or pattern. -/
  | target : Rule Target
  | statement : Rule Part
  /-- A statement, import or export. -/
  | item : Rule Part
  | type : Rule Part
  /-- A markup element whose opening bracket stands at an offset, with the offset
  past its end. -/
  | element (start : Nat) : Rule (Part × Nat)

/-- A parser for every rule. -/
structure Rules where
  apply : {α : Type} → Rule α → Parser α

namespace Rules

def expression (rules : Rules) : Parser Expr := rules.apply .expression

def assignment (rules : Rules) : Parser Expr := rules.apply .assignment

def target (rules : Rules) : Parser Target := rules.apply .target

def statement (rules : Rules) : Parser Part := rules.apply .statement

def type (rules : Rules) : Parser Part := rules.apply .type

end Rules

end DirectiveScan
