import DirectiveScan.Source.Text
import DirectiveScan.Source.CodePoints
import DirectiveScan.Source.Token

namespace DirectiveScan

/-! Literals of the source language: numbers, strings, the chunks of a template
and regular expressions. Every reader gives the offset just past what it read. -/

namespace Escape

/-- The meaning of one backslash escape. -/
structure Reading where
  codes : List Nat
  stop : Nat
  /-- Whether strict code forbids the escape. -/
  legacy : Bool

/-- The number written by exactly `count` hexadecimal digits. -/
def hexadecimal? (text : SourceText) (offset count : Nat) : Option Nat :=
  let digits := (text.slice offset (offset + count)).filterMap fun character =>
    if Character.isDigitOf 16 character then Character.digitValue? character else none
  if digits.length = count then some (Decimal.ofDigits 16 digits) else none

/-- The code point after `u`, in four digits or in braces. -/
def codePoint? (text : SourceText) (offset : Nat) : Option (Nat × Nat) :=
  if text.holdsAt offset (· = '\x7b') then
    let stop := text.skipWhile (Character.isDigitOf 16) (offset + 1)
    let value := Decimal.ofDigits 16 ((text.slice (offset + 1) stop).filterMap Character.digitValue?)
    if offset + 1 < stop && text.holdsAt stop (· = '\x7d') && value ≤ 0x10FFFF then
      some (value, stop + 1)
    else none
  else (hexadecimal? text offset 4).map (·, offset + 4)

/-- Up to three octal digits whose value fits a byte. -/
def octal (text : SourceText) (offset : Nat) : Nat × Nat :=
  let isOctal := Character.isDigitOf 8
  let width :=
    if !text.holdsAt (offset + 1) isOctal then 1
    else if text.holdsAt offset (Character.isDigitOf 4) && text.holdsAt (offset + 2) isOctal then 3
    else 2
  let digits := (text.slice offset (offset + width)).filterMap Character.digitValue?
  (Decimal.ofDigits 8 digits, offset + width)

/-- The code of a one letter escape. -/
def control? : Char → Option Nat
  | 'n' => some 0x0A
  | 't' => some 0x09
  | 'r' => some 0x0D
  | 'b' => some 0x08
  | 'v' => some 0x0B
  | 'f' => some 0x0C
  | _ => none

/-- Read the escape whose backslash stands at an offset, if it is well formed. -/
def read? (text : SourceText) (offset : Nat) : Option Reading :=
  match text.at? (offset + 1) with
  | none => some ⟨[], offset + 1, false⟩
  | some 'x' => (hexadecimal? text (offset + 2) 2).map fun value => ⟨[value], offset + 4, false⟩
  | some 'u' => (codePoint? text (offset + 2)).map fun (value, stop) => ⟨[value], stop, false⟩
  | some '\r' =>
      some ⟨[], if text.holdsAt (offset + 2) (· = '\n') then offset + 3 else offset + 2, false⟩
  | some character =>
      if Character.isLineEnd character then some ⟨[], offset + 2, false⟩
      else if Character.isDigitOf 8 character then
        let (value, stop) := octal text (offset + 1)
        let plainZero := character = '0' && !text.holdsAt (offset + 2) (Character.isDigitOf 10)
        some ⟨[value], stop, !plainZero⟩
      else
        match control? character with
        | some code => some ⟨[code], offset + 2, false⟩
        | none => some ⟨[character.toNat], offset + 2, Character.isDigitOf 10 character⟩

end Escape

namespace Literal

/-- A token that starts at a known offset, with its mistakes. -/
structure Reading where
  token : Token
  stop : Nat
  faults : List Nat := []
  strictFaults : List Nat := []

/-! ## Numbers -/

/-- Past a run of digits with separators. -/
def skipDigits (text : SourceText) (base offset : Nat) : Nat :=
  text.skipWhile (fun character => Character.isDigitOf base character || character = '_') offset

/-- The digits of a run, separators left out. -/
def digitsOf (text : SourceText) (start stop : Nat) : List Nat :=
  (text.slice start stop).filterMap fun character =>
    if character = '_' then none else Character.digitValue? character

/-- The separators of a run that do not stand between two digits. -/
def misplacedSeparators (text : SourceText) (start stop : Nat) : List Nat :=
  (List.range' start (stop - start)).filter fun offset =>
    text.holdsAt offset (· = '_') &&
      !(start < offset && text.holdsAt (offset - 1) (Character.isDigitOf 16) &&
        offset + 1 < stop && text.holdsAt (offset + 1) (Character.isDigitOf 16))

/-- A number must not run into a word. -/
def closeNumber (text : SourceText) (reading : Reading) : Reading :=
  if text.holdsAt reading.stop
      (fun character => Character.isIdentifierStart character || Character.isDigitOf 10 character) then
    { reading with token := .invalid reading.stop }
  else reading

/-- A number in base two, eight or sixteen, after its two character mark. -/
def radixNumber (text : SourceText) (base start : Nat) : Reading :=
  let stop := skipDigits text base (start + 2)
  let digits := digitsOf text (start + 2) stop
  let faults := misplacedSeparators text (start + 2) stop
  if digits.isEmpty then { token := .invalid stop, stop }
  else if text.holdsAt stop (· = 'n') then
    closeNumber text { token := .bigInt, stop := stop + 1, faults }
  else
    closeNumber text { token := .number (.ofNat (Decimal.ofDigits base digits)), stop, faults }

/-- The fraction and power of ten that may follow whole digits. -/
def decimalTail (text : SourceText) (start wholeStop : Nat) (legacy : Bool) : Reading :=
  let hasPoint := text.holdsAt wholeStop (· = '.')
  let fractionStart := if hasPoint then wholeStop + 1 else wholeStop
  let fractionStop := if hasPoint then skipDigits text 10 fractionStart else wholeStop
  let hasMark := text.holdsAt fractionStop (fun character => character = 'e' || character = 'E')
  let signed := hasMark &&
    text.holdsAt (fractionStop + 1) (fun character => character = '+' || character = '-')
  let negative := signed && text.holdsAt (fractionStop + 1) (· = '-')
  let powerStart :=
    if !hasMark then fractionStop else if signed then fractionStop + 2 else fractionStop + 1
  let stop := if hasMark then skipDigits text 10 powerStart else fractionStop
  let power := Decimal.ofDigits 10 (digitsOf text powerStart stop)
  let value := Decimal.ofParts (digitsOf text start wholeStop)
    (digitsOf text fractionStart fractionStop) (if negative then -power else power)
  let faults := misplacedSeparators text start wholeStop ++
    misplacedSeparators text fractionStart fractionStop ++ misplacedSeparators text powerStart stop
  if hasMark && (digitsOf text powerStart stop).isEmpty then { token := .invalid stop, stop }
  else
    closeNumber text
      { token := .number value, stop, faults, strictFaults := if legacy then [start] else [] }

/-- A number that starts with a digit or a point. -/
def number (text : SourceText) (start : Nat) : Reading :=
  let marked (marks : List Char) :=
    text.holdsAt start (· = '0') && text.holdsAt (start + 1) (marks.contains ·)
  if marked ['x', 'X'] then radixNumber text 16 start
  else if marked ['o', 'O'] then radixNumber text 8 start
  else if marked ['b', 'B'] then radixNumber text 2 start
  else
    let wholeStop := skipDigits text 10 start
    let digits := digitsOf text start wholeStop
    let legacy := 1 < digits.length && digits.head? = some 0
    if legacy && digits.all (· < 8) then
      closeNumber text
        { token := .number (.ofNat (Decimal.ofDigits 8 digits)), stop := wholeStop
          strictFaults := [start] }
    else if !legacy && start < wholeStop && text.holdsAt wholeStop (· = 'n') then
      closeNumber text
        { token := .bigInt, stop := wholeStop + 1, faults := misplacedSeparators text start wholeStop }
    else decimalTail text start wholeStop legacy

/-! ## Strings -/

/-- Read string characters up to the closing quote. The string started at
`start`; a string that is not closed ends at its line and is a mistake there.
The first argument bounds the number of steps. -/
def stringFrom (text : SourceText) (quote : Char) (start : Nat) :
    Nat → Nat → List Nat → List Nat → Reading
  | 0, offset, _, _ => { token := .invalid offset, stop := offset }
  | steps + 1, offset, codes, strictFaults =>
      let token := Token.string (CodePoints.text? codes.reverse)
      match text.at? offset with
      | none => { token, stop := offset, faults := [start], strictFaults }
      | some character =>
          if character = quote then { token, stop := offset + 1, strictFaults }
          else if character = '\n' || character = '\r' then
            { token, stop := offset, faults := [start], strictFaults }
          else if character = '\\' then
            match Escape.read? text offset with
            | none => { token := .invalid offset, stop := offset + 1 }
            | some escape =>
                stringFrom text quote start steps escape.stop (escape.codes.reverse ++ codes)
                  (if escape.legacy then strictFaults ++ [offset] else strictFaults)
          else stringFrom text quote start steps (offset + 1) (character.toNat :: codes) strictFaults

def string (text : SourceText) (quote : Char) (start : Nat) : Reading :=
  stringFrom text quote start (text.size + 1) (start + 1) [] []

/-! ## Templates -/

/-- The characters of a template up to its end or its next placeholder. -/
structure TemplateChunk where
  stop : Nat
  /-- Whether the template ends here. -/
  isLast : Bool
  /-- Offsets of malformed escapes, which only a tag may see. -/
  malformed : List Nat

/-- Read template characters; nothing if the template is never closed. -/
def templateFrom? (text : SourceText) : Nat → Nat → List Nat → Option TemplateChunk
  | 0, _, _ => none
  | steps + 1, offset, malformed =>
      match text.at? offset with
      | none => none
      | some character =>
          if character = Character.backQuote then some ⟨offset + 1, true, malformed⟩
          else if character = '$' && text.holdsAt (offset + 1) (· = '\x7b') then
            some ⟨offset + 2, false, malformed⟩
          else if character = '\\' then
            match Escape.read? text offset with
            | some escape =>
                templateFrom? text steps (max escape.stop (offset + 2))
                  (if escape.legacy then malformed ++ [offset] else malformed)
            | none => templateFrom? text steps (offset + 2) (malformed ++ [offset])
          else templateFrom? text steps (offset + 1) malformed

def template? (text : SourceText) (offset : Nat) : Option TemplateChunk :=
  templateFrom? text (text.size + 1) offset []

/-! ## Regular expressions -/

/-- Past the closing slash of a regular expression, which must stand on the same
line and outside of brackets. -/
def regExpBody? (text : SourceText) : Nat → Nat → Bool → Option Nat
  | 0, _, _ => none
  | steps + 1, offset, inBrackets =>
      match text.at? offset with
      | none => none
      | some character =>
          if Character.isLineEnd character then none
          else if character = '\\' then
            if text.holdsAt (offset + 1) Character.isLineEnd then none
            else regExpBody? text steps (offset + 2) inBrackets
          else if character = '[' then regExpBody? text steps (offset + 1) true
          else if character = ']' then regExpBody? text steps (offset + 1) false
          else if character = '/' && !inBrackets then some (offset + 1)
          else regExpBody? text steps (offset + 1) inBrackets

/-- The flags a regular expression may carry. -/
def regExpFlags : List Char := ['d', 'g', 'i', 'm', 's', 'u', 'v', 'y']

/-- Past the regular expression that starts at an offset, and whether its flags
are known and distinct. -/
def regExp? (text : SourceText) (start : Nat) : Option (Nat × Bool) :=
  (regExpBody? text (text.size + 1) (start + 1) false).map fun bodyStop =>
    let stop := text.skipWhile Character.isIdentifierPart bodyStop
    let flags := text.slice bodyStop stop
    (stop, flags.all (regExpFlags.contains ·) && flags.eraseDups.length = flags.length)

end Literal

end DirectiveScan
