import DirectiveScan.Source.Lexeme

namespace DirectiveScan

/-! Which words are identifiers. -/

namespace Word

/-- Words that are never identifiers. -/
def reserved : List String :=
  ["break", "case", "catch", "class", "const", "continue", "debugger", "default", "delete", "do",
   "else", "enum", "export", "extends", "false", "finally", "for", "function", "if", "import",
   "in", "instanceof", "new", "null", "return", "super", "switch", "this", "throw", "true", "try",
   "typeof", "var", "void", "while", "with"]

/-- Words that are no identifiers in strict code. -/
def strict : List String :=
  ["implements", "interface", "let", "package", "private", "protected", "public", "static", "yield"]

/-- Names that strict code neither declares nor assigns. -/
def fixed : List String := ["eval", "arguments"]

end Word

namespace Lexeme

def isWord (lexeme : Lexeme) (text : String) : Bool :=
  match lexeme.token with
  | .word found escaped => found = text && !escaped
  | _ => false

def isSymbol (lexeme : Lexeme) (symbol : String) : Bool :=
  match lexeme.token with
  | .punctuator found => found = symbol
  | _ => false

def isOneOf (lexeme : Lexeme) (symbols : List String) : Bool :=
  match lexeme.token with
  | .punctuator found => symbols.contains found
  | _ => false

/-- The word that a lexeme holds, if it can be an identifier. -/
def identifier? (lexeme : Lexeme) : Option String :=
  match lexeme.token with
  | .word text _ => if Word.reserved.contains text then none else some text
  | _ => none

def isIdentifier (lexeme : Lexeme) : Bool := lexeme.identifier?.isSome

def isString (lexeme : Lexeme) : Bool :=
  match lexeme.token with
  | .string _ => true
  | _ => false

end Lexeme

end DirectiveScan
