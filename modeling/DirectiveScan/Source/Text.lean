namespace DirectiveScan

/-! The text of a source file, as a sequence of characters with offsets. A
leading byte order mark is no part of the text. -/

structure SourceText where
  characters : Array Char

/-- A place in a text for a reader: both numbers start at one. -/
structure Location where
  line : Nat
  column : Nat
deriving DecidableEq, Repr

namespace SourceText

def byteOrderMark : Char := Char.ofNat 0xFEFF

def ofString (contents : String) : SourceText :=
  match contents.toList with
  | [] => ⟨#[]⟩
  | first :: rest =>
      if first = byteOrderMark then ⟨rest.toArray⟩ else ⟨(first :: rest).toArray⟩

def size (text : SourceText) : Nat := text.characters.size

def at? (text : SourceText) (offset : Nat) : Option Char := text.characters[offset]?

/-- Whether the character at an offset satisfies a test; false past the end. -/
def holdsAt (text : SourceText) (offset : Nat) (test : Char → Bool) : Bool :=
  match text.at? offset with
  | some character => test character
  | none => false

/-- The first offset, from the given one on, whose character fails the test. -/
def skipWhile (text : SourceText) (test : Char → Bool) (offset : Nat) : Nat :=
  if h : offset < text.characters.size then
    if test text.characters[offset] then text.skipWhile test (offset + 1) else offset
  else offset
termination_by text.characters.size - offset

/-- The characters from one offset up to another. -/
def slice (text : SourceText) (start stop : Nat) : List Char :=
  (text.characters.extract start stop).toList

/-- Whether the text continues with the given characters at an offset. -/
def startsWith (text : SourceText) (offset : Nat) : List Char → Bool
  | [] => true
  | expected :: rest =>
      text.holdsAt offset (· = expected) && text.startsWith (offset + 1) rest

/-! Lines end at a line feed, a carriage return, or both in this order. A line
end that is the last character of the text starts no new line. Columns count
units of UTF-16, so a character beyond the basic plane takes two. -/

/-- The columns that a character takes. -/
def columnsOf (character : Char) : Nat := if character.toNat < 0x10000 then 1 else 2

/-- The place of `target`, the reader being at `offset` in the place `here`. -/
def locateFrom (target : Nat) : List Char → Nat → Location → Location
  | [], _, here => here
  | character :: rest, offset, here =>
      if target ≤ offset then here
      else
        let ends := character = '\n' || (character = '\r' && rest.head? != some '\n')
        if ends && !rest.isEmpty then locateFrom target rest (offset + 1) ⟨here.line + 1, 1⟩
        else locateFrom target rest (offset + 1) ⟨here.line, here.column + columnsOf character⟩

/-- Line and column of an offset. -/
def locate (text : SourceText) (offset : Nat) : Location :=
  locateFrom offset text.characters.toList 0 ⟨1, 1⟩

end SourceText

end DirectiveScan
