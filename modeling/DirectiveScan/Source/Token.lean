import DirectiveScan.Number.Decimal

namespace DirectiveScan

/-! The tokens of a source text. Keywords are words: the grammar decides which
words are reserved where. -/

inductive Token where
  /-- An identifier or keyword; a word spelled with escapes is no keyword. -/
  | word (text : String) (escaped : Bool)
  | privateName (text : String)
  | number (value : Decimal)
  | bigInt
  /-- A string literal, without a text if its escapes name half a character. -/
  | string (text : Option String)
  /-- The quote that opens a template. -/
  | templateQuote
  | punctuator (symbol : String)
  | endOfText
  /-- No token starts here; the offset is where the text stops making sense. -/
  | invalid (offset : Nat)
deriving Repr, Inhabited

/-- A token with its place. -/
structure Lexeme where
  token : Token
  start : Nat
  stop : Nat
  /-- Whether a line ends between the previous token and this one. -/
  afterLineEnd : Bool
  /-- Offsets of mistakes in and before the token that do not stop the reader. -/
  faults : List Nat
  /-- Offsets of forms that are mistakes in strict code only. -/
  strictFaults : List Nat
deriving Repr, Inhabited

namespace Token

/-- Symbols of the language, each before every shorter symbol it starts with. -/
def symbols : List String :=
  [">>>=", "...", "===", "!==", "**=", "<<=", ">>=", ">>>", "&&=", "||=", "??=",
   "=>", "==", "!=", "<=", ">=", "&&", "||", "??", "?.", "++", "--", "+=", "-=", "*=", "/=", "%=",
   "&=", "|=", "^=", "<<", ">>", "**",
   "\x7b", "\x7d", "(", ")", "[", "]", ";", ",", "<", ">", "+", "-", "*", "/", "%", "&", "|", "^",
   "!", "~", "?", ":", "=", ".", "@"]

end Token

end DirectiveScan
