import DirectiveScan.Source.Word

namespace DirectiveScan

/-! Reading a source text token by token.

A parser stops at the first token that cannot continue the program. Other
mistakes are noted and reading goes on; they count only if nothing stops the
parser later. -/

/-- The language of a source text. -/
structure Dialect where
  /-- Whether types may be written. -/
  typed : Bool
  /-- Whether markup elements are expressions. -/
  markup : Bool
deriving DecidableEq, Repr

/-- What surrounds the place that is being read. -/
structure Surroundings where
  text : SourceText
  dialect : Dialect
  inFunction : Bool := false
  /-- Whether code here may ask how it was called. -/
  allowsNewTarget : Bool := false
  isAsync : Bool := false
  isGenerator : Bool := false
  isStrict : Bool := false
  /-- Whether `in` is an operator here. -/
  allowsIn : Bool := true
  /-- Whether a colon will end the expression. -/
  expectsColon : Bool := false
  canBreak : Bool := false
  canContinue : Bool := false
  labels : List String := []
  /-- Whether declarations describe code found elsewhere. -/
  isAmbient : Bool := false

/-- How far a text has been read. -/
structure Cursor where
  lexeme : Lexeme
  /-- Where the token before the current one started and ended. -/
  previousStart : Nat
  previousStop : Nat
  /-- Mistakes that did not stop the parser, in the order they were found. -/
  faults : Array Nat
  /-- Mistakes if the program turns out to be a module. -/
  strictFaults : Array Nat
  /-- Entries that are mistakes unless their object turns out to be a pattern. -/
  patternFaults : Array Nat
  /-- Whether a form that only modules have was met. -/
  isModule : Bool

/-- The offset at which a program stops making sense. -/
structure Fault where
  offset : Nat
deriving DecidableEq, Repr

abbrev Parser := ReaderT Surroundings (StateT Cursor (Except Fault))

namespace Parser

variable {α β : Type}

def failAt (offset : Nat) : Parser α := throw ⟨offset⟩

def current : Parser Lexeme := return (← get).lexeme

/-- The offset of the current token. -/
def offset : Parser Nat := return (← get).lexeme.start

/-- The current token cannot continue the program. -/
def unexpected : Parser α := do
  let lexeme ← current
  match lexeme.token with
  | .invalid offset => failAt offset
  | _ => failAt lexeme.start

/-- Note a mistake and go on. -/
def note (offset : Nat) : Parser Unit :=
  modify fun cursor => { cursor with faults := cursor.faults.push offset }

/-- Note a mistake that only strict code has. -/
def noteStrict (offset : Nat) : Parser Unit := do
  if (← read).isStrict then note offset
  else modify fun cursor => { cursor with strictFaults := cursor.strictFaults.push offset }

/-- Go on reading at an offset, whatever the current token is. -/
def resumeAt (offset : Nat) : Parser Unit := do
  let text := (← read).text
  modify fun cursor =>
    { cursor with
      lexeme := Lexeme.scan text offset
      previousStart := cursor.lexeme.start
      previousStop := offset }

/-- Take the current token, with the mistakes in it. -/
def advance : Parser Unit := do
  let lexeme ← current
  lexeme.faults.forM note
  lexeme.strictFaults.forM noteStrict
  resumeAt lexeme.stop

/-- The token after the current one. -/
def next : Parser Lexeme := do
  return Lexeme.scan (← read).text (← current).stop

/-! ## Choices -/

/-- Try a parser; if it fails nothing has been read. -/
def attempt (parser : Parser α) : Parser (Option α) := fun surroundings cursor =>
  match parser surroundings cursor with
  | .ok (value, after) => .ok (some value, after)
  | .error _ => .ok (none, cursor)

/-- Whether a parser would succeed with `true` here. -/
def lookahead (parser : Parser Bool) : Parser Bool := fun surroundings cursor =>
  match parser surroundings cursor with
  | .ok (answer, _) => .ok (answer, cursor)
  | .error _ => .ok (false, cursor)

/-- What a parser would read here, if it would succeed. -/
def peek (parser : Parser α) : Parser (Option α) := fun surroundings cursor =>
  match parser surroundings cursor with
  | .ok (value, _) => .ok (some value, cursor)
  | .error _ => .ok (none, cursor)

/-- Collect values until a step gives none. The first argument bounds the number
of steps. -/
def collectFrom (step : Parser (Option α)) : Nat → List α → Parser (List α)
  | 0, _ => unexpected
  | steps + 1, values => do
      match ← step with
      | none => return values.reverse
      | some value => collectFrom step steps (value :: values)

/-- Collect values until a step gives none. Each step reads at least a character. -/
def collect (step : Parser (Option α)) : Parser (List α) := do
  collectFrom step ((← read).text.size + 2) []

/-- Extend a value until a step gives none. The first argument bounds the number
of steps. -/
def extendFrom (step : α → Parser (Option α)) : Nat → α → Parser α
  | 0, _ => unexpected
  | steps + 1, value => do
      match ← step value with
      | none => return value
      | some extended => extendFrom step steps extended

/-- Extend a value until a step gives none. Each step reads at least a character. -/
def extend (step : α → Parser (Option α)) (value : α) : Parser α := do
  extendFrom step ((← read).text.size + 2) value

/-! ## Tokens -/

def isSymbol (symbol : String) : Parser Bool := do
  match (← current).token with
  | .punctuator found => return found = symbol
  | _ => return false

/-- Whether the current token is one of some symbols. -/
def isOneOf (symbols : List String) : Parser Bool := do
  match (← current).token with
  | .punctuator found => return symbols.contains found
  | _ => return false

def eatSymbol (symbol : String) : Parser Bool := do
  if ← isSymbol symbol then
    advance
    return true
  else return false

def expectSymbol (symbol : String) : Parser Unit := do
  unless ← eatSymbol symbol do unexpected

def isWord (text : String) : Parser Bool := return (← current).isWord text

def eatWord (text : String) : Parser Bool := do
  if ← isWord text then
    advance
    return true
  else return false

def expectWord (text : String) : Parser Unit := do
  unless ← eatWord text do unexpected

def isEnd : Parser Bool := do
  match (← current).token with
  | .endOfText => return true
  | _ => return false

/-- Whether the current token starts with a character. -/
def startsWith (character : Char) : Parser Bool := do
  return (← read).text.holdsAt (← offset) (· = character)

/-- Take a single character of the current token, which may be a part of a longer
symbol. -/
def eatCharacter (character : Char) : Parser Bool := do
  if ← startsWith character then
    resumeAt ((← offset) + 1)
    return true
  else return false

def expectCharacter (character : Char) : Parser Unit := do
  unless ← eatCharacter character do unexpected

/-! ## Ends of statements -/

/-- Whether a statement may end here: at a semicolon, before a closing brace, at
the end of the text or at a line end. -/
def atStatementEnd : Parser Bool := do
  let lexeme ← current
  match lexeme.token with
  | .punctuator ";" => return true
  | .punctuator "\x7d" => return true
  | .endOfText => return true
  | _ => return lexeme.afterLineEnd

/-- Take the semicolon of a statement, if the statement may end here. -/
def eatStatementEnd : Parser Bool := do
  if ← eatSymbol ";" then return true
  else atStatementEnd

def expectStatementEnd : Parser Unit := do
  unless ← eatStatementEnd do unexpected

/-! ## Names -/

def isIdentifier : Parser Bool := return (← current).isIdentifier

/-- Note a word that names a variable where it is reserved. -/
def checkName (lexeme : Lexeme) : Parser Unit := do
  match lexeme.token with
  | .word name _ =>
      let surroundings ← read
      if Word.reserved.contains name then note lexeme.start
      if Word.strict.contains name then noteStrict lexeme.start
      if name = "yield" && surroundings.isGenerator then note lexeme.start
      if name = "await" && surroundings.isAsync then note lexeme.start
  | _ => pure ()

/-- An identifier that names a variable. -/
def identifier : Parser String := do
  let lexeme ← current
  match lexeme.identifier? with
  | none => unexpected
  | some name =>
      checkName lexeme
      advance
      return name

/-- An identifier that is declared. -/
def declaredName : Parser String := do
  let start ← offset
  let name ← identifier
  if Word.fixed.contains name then noteStrict start
  return name

/-- Any word, as after a point. -/
def anyWord : Parser String := do
  match (← current).token with
  | .word text _ =>
      advance
      return text
  | _ => unexpected

def isTyped : Parser Bool := return (← read).dialect.typed

/-- Take a symbol that has a meaning here in typed code only. -/
def eatTypedSymbol (symbol : String) : Parser Bool := do
  if ← isTyped then eatSymbol symbol else return false

/-- Take a word that has a meaning here in typed code only. -/
def eatTypedWord (text : String) : Parser Bool := do
  if ← isTyped then eatWord text else return false

/-- Read inside brackets, where neither `in` nor a colon is special. -/
def bracketed (parser : Parser α) : Parser α :=
  withReader (fun surroundings => { surroundings with allowsIn := true, expectsColon := false })
    parser

/-- Items divided by commas, up to a closing symbol, which is taken. A comma may
precede it. -/
def commaList (item : Parser α) (closing : String) : Parser (List α) := do
  let items ← collect do
    if ← isSymbol closing then return none
    let value ← item
    unless ← isSymbol closing do expectSymbol ","
    return some value
  expectSymbol closing
  return items

end Parser

end DirectiveScan
