import DirectiveScan.Json.Basic

namespace DirectiveScan.JsonValue

/-! Reading JSON. Nothing but the grammar is accepted: no comments, no commas at the
end, and nothing but blanks around the value. -/

/-- What is read, and the rest of the text. -/
abbrev Read (α : Type) := List Char → Option (α × List Char)

def isBlank (character : Char) : Bool :=
  character = ' ' || character = '\n' || character = '\r' || character = '\t'

def skipBlanks (text : List Char) : List Char := text.dropWhile isBlank

/-! ## Strings -/

/-- A piece of a string: a character, or a number written in hexadecimal. -/
inductive StringUnit where
  | character (character : Char)
  | code (code : Nat)

/-- The value of a hexadecimal digit. -/
def hexValue? (character : Char) : Option Nat :=
  if character.isDigit then some (character.toNat - '0'.toNat)
  else if 'a' ≤ character && character ≤ 'f' then some (character.toNat - 'a'.toNat + 10)
  else if 'A' ≤ character && character ≤ 'F' then some (character.toNat - 'A'.toNat + 10)
  else none

/-- The character that a letter after a backslash stands for. -/
def escaped? : Char → Option Char
  | '\x22' => some '\x22'
  | '\\' => some '\\'
  | '/' => some '/'
  | 'b' => some '\x08'
  | 'f' => some '\x0c'
  | 'n' => some '\n'
  | 'r' => some '\r'
  | 't' => some '\t'
  | _ => none

/-- The number of four hexadecimal digits. -/
def codeOf? (first second third fourth : Char) : Option Nat := do
  let first ← hexValue? first
  let second ← hexValue? second
  let third ← hexValue? third
  let fourth ← hexValue? fourth
  return ((first * 16 + second) * 16 + third) * 16 + fourth

/-- The pieces of a string up to its closing quote. -/
def readUnits : Read (List StringUnit)
  | [] => none
  | '\x22' :: rest => some ([], rest)
  | '\\' :: 'u' :: first :: second :: third :: fourth :: rest => do
      let code ← codeOf? first second third fourth
      let (units, rest) ← readUnits rest
      return (.code code :: units, rest)
  | '\\' :: letter :: rest => do
      let character ← escaped? letter
      let (units, rest) ← readUnits rest
      return (.character character :: units, rest)
  | character :: rest =>
      if character.toNat < 32 || character = '\\' then none
      else do
        let (units, rest) ← readUnits rest
        return (.character character :: units, rest)

def isHighSurrogate (code : Nat) : Bool := 0xD800 ≤ code && code < 0xDC00

def isLowSurrogate (code : Nat) : Bool := 0xDC00 ≤ code && code < 0xE000

/-- The characters of a string. Two halves of a surrogate pair are one character. -/
def textOf : List StringUnit → Option (List Char)
  | [] => some []
  | .character character :: rest => (textOf rest).map (character :: ·)
  | .code code :: rest =>
      if isHighSurrogate code then
        match rest with
        | .code low :: rest =>
            if isLowSurrogate low then
              (textOf rest).map
                (Char.ofNat (0x10000 + (code - 0xD800) * 0x400 + (low - 0xDC00)) :: ·)
            else none
        | _ => none
      else if isLowSurrogate code then none
      else (textOf rest).map (Char.ofNat code :: ·)

/-- A string, from its opening quote on. -/
def readText : Read JsonText
  | '\x22' :: rest => (readUnits rest).map fun read => ((textOf read.1).map String.ofList, read.2)
  | _ => none

/-! ## Numbers -/

/-- One digit or more. -/
def readDigits (text : List Char) : Option (List Char × List Char) :=
  match text.takeWhile Char.isDigit with
  | [] => none
  | digits => some (digits, text.drop digits.length)

/-- Digits without a leading zero. -/
def readWhole : Read (List Char)
  | '0' :: rest => if rest.head?.any Char.isDigit then none else some (['0'], rest)
  | text => readDigits text

/-- A point and digits, if a point follows. -/
def readFraction : Read (List Char)
  | '.' :: rest => (readDigits rest).map fun read => ('.' :: read.1, read.2)
  | text => some ([], text)

/-- An exponent, if one follows. -/
def readExponent (text : List Char) : Option (List Char × List Char) :=
  match text with
  | letter :: rest =>
      if letter = 'e' || letter = 'E' then
        match rest with
        | sign :: digits =>
            if sign = '+' || sign = '-' then
              (readDigits digits).map fun read => (letter :: sign :: read.1, read.2)
            else (readDigits rest).map fun read => (letter :: read.1, read.2)
        | [] => none
      else some ([], text)
  | [] => some ([], [])

def readNumber (text : List Char) : Option (JsonValue × List Char) := do
  let (sign, text) := if text.head? = some '-' then (['-'], text.drop 1) else ([], text)
  let (whole, text) ← readWhole text
  let (fraction, text) ← readFraction text
  let (exponent, text) ← readExponent text
  return (.number (String.ofList (sign ++ whole ++ fraction ++ exponent)), text)

/-! ## Values -/

/-- Pass over a word. -/
def skipWord (word : String) (value : JsonValue) (text : List Char) :
    Option (JsonValue × List Char) :=
  if word.toList.isPrefixOf text then some (value, text.drop word.length) else none

mutual

/-- A value, with a bound on the number of nested and neighbouring things. -/
def readValue : Nat → Read JsonValue
  | 0, _ => none
  | bound + 1, text =>
      match text with
      | 'n' :: _ => skipWord "null" .null text
      | 't' :: _ => skipWord "true" (.boolean true) text
      | 'f' :: _ => skipWord "false" (.boolean false) text
      | '\x22' :: _ => (readText text).map fun read => (.string read.1, read.2)
      | '[' :: rest =>
          match skipBlanks rest with
          | ']' :: rest => some (.array [], rest)
          | first => (readItems bound first).map fun read => (.array read.1, read.2)
      | '\x7b' :: rest =>
          match skipBlanks rest with
          | '\x7d' :: rest => some (.object [], rest)
          | first => (readMembers bound first).map fun read => (.object read.1, read.2)
      | _ => readNumber text

/-- One item or more, and the closing bracket. -/
def readItems : Nat → Read (List JsonValue)
  | 0, _ => none
  | bound + 1, text => do
      let (item, rest) ← readValue bound text
      match skipBlanks rest with
      | ',' :: rest =>
          let (items, rest) ← readItems bound (skipBlanks rest)
          return (item :: items, rest)
      | ']' :: rest => return ([item], rest)
      | _ => none

/-- One member or more, and the closing brace. -/
def readMembers : Nat → Read (List (JsonText × JsonValue))
  | 0, _ => none
  | bound + 1, text => do
      let (key, rest) ← readText text
      match skipBlanks rest with
      | ':' :: rest =>
          let (value, rest) ← readValue bound (skipBlanks rest)
          match skipBlanks rest with
          | ',' :: rest =>
              let (members, rest) ← readMembers bound (skipBlanks rest)
              return ((key, value) :: members, rest)
          | '\x7d' :: rest => return ([(key, value)], rest)
          | _ => none
      | _ => none

end

/-- The value of a text. Every thing in it takes at least one character, so twice the
length of the text bounds the reading. -/
def read? (text : String) : Option JsonValue :=
  match readValue (2 * text.toList.length + 2) (skipBlanks text.toList) with
  | some (value, rest) => if (skipBlanks rest).isEmpty then some value else none
  | none => none

end DirectiveScan.JsonValue
