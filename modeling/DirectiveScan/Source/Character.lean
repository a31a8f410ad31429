import DirectiveScan.Source.IdentifierRanges

namespace DirectiveScan.Character

/-! Classes of characters the grammar tells apart. -/

def inRanges (ranges : Array (Nat × Nat)) (character : Char) : Bool :=
  ranges.any fun range => range.1 ≤ character.toNat && character.toNat ≤ range.2

def isAscii (character : Char) : Bool := character.toNat < 0x80

def isIdentifierStart (character : Char) : Bool :=
  if isAscii character then character.isAlpha || character = '$' || character = '_'
  else inRanges identifierStartRanges character

def isIdentifierPart (character : Char) : Bool :=
  if isAscii character then character.isAlphanum || character = '$' || character = '_'
  else inRanges identifierStartRanges character || inRanges identifierContinueRanges character

def isLineEnd (character : Char) : Bool :=
  character = '\n' || character = '\r' || character.toNat = 0x2028 || character.toNat = 0x2029

/-- Characters between tokens that end no line. -/
def isBlank (character : Char) : Bool :=
  let code := character.toNat
  code = 0x20 || code = 0x09 || code = 0x0B || code = 0x0C || code = 0xA0 || code = 0xFEFF ||
    code = 0x1680 || (0x2000 ≤ code && code ≤ 0x200A) || code = 0x202F || code = 0x205F ||
    code = 0x3000

/-- The value of a digit in any base up to sixteen. -/
def digitValue? (character : Char) : Option Nat :=
  let code := character.toNat
  if 0x30 ≤ code && code ≤ 0x39 then some (code - 0x30)
  else if 0x61 ≤ code && code ≤ 0x66 then some (code - 0x57)
  else if 0x41 ≤ code && code ≤ 0x46 then some (code - 0x37)
  else none

def isDigitOf (base : Nat) (character : Char) : Bool :=
  match digitValue? character with
  | some value => value < base
  | none => false

/-- Whether a code point stands for one half of a character. -/
def isSurrogate (code : Nat) : Bool := 0xD800 ≤ code && code ≤ 0xDFFF

def doubleQuote : Char := '\x22'

def singleQuote : Char := '\x27'

def backQuote : Char := '\x60'

end DirectiveScan.Character
