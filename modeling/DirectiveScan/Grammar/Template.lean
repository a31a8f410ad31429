import DirectiveScan.Grammar.Parser

namespace DirectiveScan.Grammar

open DirectiveScan.Parser

/-! Templates: text with placeholders, for values and for types alike. -/

/-- The next chunk of a template that started at `start`. -/
def templateChunk (start offset : Nat) (isTagged : Bool) : Parser Literal.TemplateChunk := do
  match Literal.template? (← read).text offset with
  | none => failAt start
  | some chunk =>
      unless isTagged do chunk.malformed.forM note
      return chunk

/-- What the placeholders of a template hold. The current token is the opening
quote. Only a tag may see malformed escapes. -/
def templatePieces {α : Type} (isTagged : Bool) (piece : Parser α) : Parser (List α) := do
  let start ← offset
  let step (found : Literal.TemplateChunk × List α) :
      Parser (Option (Literal.TemplateChunk × List α)) := do
    if found.1.isLast then return none
    resumeAt found.1.stop
    let value ← piece
    unless ← isSymbol "\x7d" do unexpected
    let chunk ← templateChunk start ((← offset) + 1) isTagged
    return some (chunk, value :: found.2)
  let (last, pieces) ← extend step (← templateChunk start (start + 1) isTagged, [])
  resumeAt last.stop
  return pieces.reverse

end DirectiveScan.Grammar
