import DirectiveScan.Source.Character

namespace DirectiveScan.CodePoints

/-! A string literal is read as a list of code points, because its escapes can
name the two halves of a character separately. Halves that follow each other in
the right order are one character; a literal with any other half has no text. -/

/-- The character of two halves. -/
def joinHalves (high low : Nat) : Nat := 0x10000 + (high - 0xD800) * 0x400 + (low - 0xDC00)

def isHighHalf (code : Nat) : Bool := 0xD800 ≤ code && code ≤ 0xDBFF

def isLowHalf (code : Nat) : Bool := 0xDC00 ≤ code && code ≤ 0xDFFF

/-- The characters of a list of code points, if no half stands alone. -/
def characters? : List Nat → Option (List Char)
  | [] => some []
  | high :: low :: rest =>
      if isHighHalf high && isLowHalf low then
        (characters? rest).map (Char.ofNat (joinHalves high low) :: ·)
      else if Character.isSurrogate high then none
      else (characters? (low :: rest)).map (Char.ofNat high :: ·)
  | [code] => if Character.isSurrogate code then none else some [Char.ofNat code]

def text? (codes : List Nat) : Option String := (characters? codes).map String.ofList

end DirectiveScan.CodePoints
