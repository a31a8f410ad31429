namespace DirectiveScan.Report

/-! Styles of text on a terminal. -/

inductive Style where
  | bold
  | dimmed
  | red
  | green
  | yellow
  | blue
  | cyan
  | boldRed
deriving DecidableEq, Repr

def Style.code : Style → String
  | bold => "1"
  | dimmed => "2"
  | red => "31"
  | green => "32"
  | yellow => "33"
  | blue => "34"
  | cyan => "36"
  | boldRed => "1;31"

/-- The sequence that starts a style. -/
def Style.opening (style : Style) : List Char := '\x1b' :: '[' :: style.code.toList ++ ['m']

/-- The sequence that ends all styles. -/
def closing : List Char := ['\x1b', '[', '0', 'm']

/-- A text in which a style starts again wherever the text itself ends it. The number
counts the characters of such an end that are still to come. -/
def reopen (opening : List Char) : Nat → List Char → List Char
  | _, [] => []
  | 1, character :: rest => character :: opening ++ reopen opening 0 rest
  | remaining + 2, character :: rest => character :: reopen opening (remaining + 1) rest
  | 0, character :: rest =>
      character ::
        reopen opening (if closing.isPrefixOf (character :: rest) then closing.length - 1 else 0) rest

/-- A text in a style, where colors are wanted. -/
def paint (colored : Bool) (style : Style) (text : String) : String :=
  if colored then
    String.ofList (style.opening ++ reopen style.opening 0 text.toList ++ closing)
  else text

end DirectiveScan.Report
