import DirectiveScan.Source.Gap
import DirectiveScan.Source.Literal

namespace DirectiveScan

/-! Finding the token at an offset. Which tokens there are does not depend on
what came before, with the exception of regular expressions, the insides of
templates and markup: these are read where the grammar expects them. -/

namespace Lexeme

/-- The characters of a word, escapes resolved. The first argument bounds the
number of steps. -/
def wordFrom (text : SourceText) :
    Nat → Nat → List Char → Bool → Except Nat (List Char × Nat × Bool)
  | 0, offset, _, _ => .error offset
  | steps + 1, offset, letters, escaped =>
      match text.at? offset with
      | none => .ok (letters.reverse, offset, escaped)
      | some character =>
          if Character.isIdentifierPart character then
            wordFrom text steps (offset + 1) (character :: letters) escaped
          else if character = '\\' then
            if text.holdsAt (offset + 1) (· = 'u') then
              match Escape.codePoint? text (offset + 2) with
              | none => .error offset
              | some (code, stop) =>
                  let letter := Char.ofNat code
                  let fits := if letters.isEmpty then Character.isIdentifierStart letter
                    else Character.isIdentifierPart letter
                  if fits then wordFrom text steps stop (letter :: letters) true
                  else .error offset
            else .error offset
          else .ok (letters.reverse, offset, escaped)

def wordStarts (text : SourceText) (offset : Nat) : Bool :=
  text.holdsAt offset fun character => Character.isIdentifierStart character || character = '\\'

def wordAt (text : SourceText) (offset : Nat) : Except Nat (List Char × Nat × Bool) :=
  wordFrom text (text.size + 1) offset [] false

/-- The longest symbol at an offset. A question mark and a point before a digit
are two tokens. -/
def symbolAt? (text : SourceText) (offset : Nat) : Option String :=
  Token.symbols.find? fun symbol =>
    text.startsWith offset symbol.toList &&
      !(symbol = "?." && text.holdsAt (offset + 2) (Character.isDigitOf 10))

/-- The token that starts exactly at an offset. -/
def readAt (text : SourceText) (offset : Nat) : Literal.Reading :=
  match text.at? offset with
  | none => { token := .endOfText, stop := offset }
  | some character =>
      if wordStarts text offset then
        match wordAt text offset with
        | .ok (letters, stop, escaped) =>
            { token := .word (String.ofList letters) escaped, stop }
        | .error bad => { token := .invalid bad, stop := offset + 1 }
      else if Character.isDigitOf 10 character ||
          (character = '.' && text.holdsAt (offset + 1) (Character.isDigitOf 10)) then
        Literal.number text offset
      else if character = Character.singleQuote || character = Character.doubleQuote then
        Literal.string text character offset
      else if character = Character.backQuote then { token := .templateQuote, stop := offset + 1 }
      else if character = '#' && wordStarts text (offset + 1) then
        match wordAt text (offset + 1) with
        | .ok (letters, stop, _) => { token := .privateName (String.ofList letters), stop }
        | .error bad => { token := .invalid bad, stop := offset + 1 }
      else
        match symbolAt? text offset with
        | some symbol => { token := .punctuator symbol, stop := offset + symbol.length }
        | none => { token := .invalid offset, stop := offset + 1 }

/-- The next token at or after an offset. -/
def scan (text : SourceText) (offset : Nat) : Lexeme :=
  let gap := Gap.scan text offset
  let reading := readAt text gap.stop
  { token := reading.token
    start := gap.stop
    stop := reading.stop
    afterLineEnd := gap.hasLineEnd
    faults := gap.faults ++ reading.faults
    strictFaults := gap.strictFaults ++ reading.strictFaults }

end Lexeme

end DirectiveScan
