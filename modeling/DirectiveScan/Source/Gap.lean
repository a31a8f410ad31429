import DirectiveScan.Source.Text
import DirectiveScan.Source.Character

namespace DirectiveScan

/-! What may stand between two tokens: blanks, line ends and comments. -/

/-- A run of blanks, line ends and comments. -/
structure Gap where
  stop : Nat
  /-- Whether the run holds a line end. -/
  hasLineEnd : Bool
  /-- Offsets of comments that are never closed. -/
  faults : List Nat
  /-- Offsets of comment forms that modules do not have. -/
  strictFaults : List Nat

namespace Gap

/-- Where a block comment ends, and whether it spans a line end. The offset is
inside the comment. -/
def blockEnd? (text : SourceText) (offset : Nat) (hasLineEnd : Bool) : Option (Nat × Bool) :=
  if h : offset < text.characters.size then
    if text.characters[offset] = '*' && text.holdsAt (offset + 1) (· = '/') then
      some (offset + 2, hasLineEnd)
    else
      blockEnd? text (offset + 1) (hasLineEnd || Character.isLineEnd text.characters[offset])
  else none
termination_by text.characters.size - offset

/-- The first line end from an offset on. -/
def lineEnd (text : SourceText) (offset : Nat) : Nat :=
  text.skipWhile (fun character => !Character.isLineEnd character) offset

/-- Extend a gap. A closing `-->` is a comment only where nothing but comments
precedes it on its line. The first argument bounds the number of steps. -/
def extend (text : SourceText) : Nat → Gap → Gap
  | 0, gap => gap
  | steps + 1, gap =>
      match text.at? gap.stop with
      | none => gap
      | some character =>
          if Character.isBlank character then
            extend text steps { gap with stop := gap.stop + 1 }
          else if Character.isLineEnd character then
            extend text steps { gap with stop := gap.stop + 1, hasLineEnd := true }
          else if text.startsWith gap.stop ['/', '/'] then
            extend text steps { gap with stop := lineEnd text gap.stop }
          else if text.startsWith gap.stop ['/', '*'] then
            match blockEnd? text (gap.stop + 2) gap.hasLineEnd with
            | some (stop, hasLineEnd) => extend text steps { gap with stop, hasLineEnd }
            | none => { gap with stop := text.size, faults := gap.faults ++ [gap.stop] }
          else if text.startsWith gap.stop ['<', '!', '-', '-'] ||
              (gap.hasLineEnd && text.startsWith gap.stop ['-', '-', '>']) then
            extend text steps
              { gap with
                stop := lineEnd text gap.stop
                strictFaults := gap.strictFaults ++ [gap.stop] }
          else gap

/-- The gap at an offset. The start of the text counts as a line start, and may
hold a line that names an interpreter. -/
def scan (text : SourceText) (offset : Nat) : Gap :=
  let start := if offset = 0 && text.startsWith 0 ['#', '!'] then lineEnd text 0 else offset
  extend text (text.size + 1) ⟨start, offset = 0, [], []⟩

end Gap

end DirectiveScan
