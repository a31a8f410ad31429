import DirectiveScan.Grammar.Function
import DirectiveScan.Source.CharacterReference

namespace DirectiveScan.Grammar

open DirectiveScan.Parser

/-! Markup elements as expressions. Inside an element text, tags and braces take
the place of tokens, so this module works on offsets where tokens do not apply.
Names of elements and attributes are identifiers and may hold dashes. -/

/-- A name of an element or attribute. -/
def markupWord : Parser String := do
  let text := (← read).text
  let start ← offset
  if text.holdsAt start Character.isIdentifierStart then
    let stop := text.skipWhile
      (fun character => Character.isIdentifierPart character || character = '-') start
    resumeAt stop
    return String.ofList (text.slice start stop)
  else unexpected

/-- The parts of a name, and the name as written. -/
structure MarkupName where
  parts : List Part
  written : String

def MarkupName.divided (first second : String) : MarkupName :=
  ⟨[.name first, .name second], first ++ ":" ++ second⟩

/-- The name of an element: two words with a colon, or a word or path that starts like a
variable. -/
def elementName : Parser MarkupName := do
  let first ← markupWord
  if ← eatSymbol ":" then return .divided first (← markupWord)
  else
    let rest ← collect do
      if ← eatSymbol "." then return some (← markupWord) else return none
    return ⟨.node (.identifier first) :: rest.map .name, ".".intercalate (first :: rest)⟩

def attributeName : Parser MarkupName := do
  let first ← markupWord
  if ← eatSymbol ":" then return .divided first (← markupWord)
  else return ⟨[.name first], first⟩

/-- A quoted attribute value, in which nothing but the quote ends the text. -/
def attributeString (quote : Char) : Parser Part := do
  let text := (← read).text
  let start ← offset
  let stop := text.skipWhile (· != quote) (start + 1)
  if text.holdsAt stop (· = quote) then
    resumeAt (stop + 1)
    let value := CharacterReference.decode (text.slice (start + 1) stop)
    return .node (.string (some (String.ofList value)))
  else failAt start

/-- The value of an attribute, after its equals sign. -/
def attributeValue (rules : Rules) : Parser Part := do
  if ← startsWith Character.doubleQuote then attributeString Character.doubleQuote
  else if ← startsWith Character.singleQuote then attributeString Character.singleQuote
  else if ← startsWith '<' then
    let (element, stop) ← rules.apply (.element (← offset))
    resumeAt stop
    return element
  else
    expectSymbol "\x7b"
    let value ← bracketed rules.expression
    expectSymbol "\x7d"
    return .expr value

/-- An attribute, or attributes spread from a value. -/
def elementAttribute (rules : Rules) : Parser Part := do
  if ← eatSymbol "\x7b" then
    expectSymbol "..."
    let value ← bracketed rules.assignment
    expectSymbol "\x7d"
    return .construct .elementAttribute [.expr value]
  else
    let name ← attributeName
    let value ← if ← eatSymbol "=" then (do return [← attributeValue rules]) else pure []
    return .construct .elementAttribute (name.parts ++ value)

/-- What was found among the children of an element: further children, or the
closing tag with its name and the offset past it. -/
inductive Child where
  | part (part : Part)
  | nothing
  | closing (start : Nat) (name : Option MarkupName) (stop : Nat)

/-- The closing tag whose bracket stands at an offset. The slash is the current
token. -/
def closingTag (start : Nat) : Parser Child := do
  expectCharacter '/'
  let name ← if ← startsWith '>' then pure none else (do return some (← elementName))
  unless ← startsWith '>' do unexpected
  return .closing start name ((← offset) + 1)

/-- An expression in braces among children, with the offset past it. -/
def childExpression (rules : Rules) (start : Nat) : Parser (Child × Nat) := do
  resumeAt (start + 1)
  let child ←
    if ← isSymbol "\x7d" then pure Child.nothing
    else
      (do
        let _ ← eatSymbol "..."
        return Child.part (.expr (← bracketed rules.expression)))
  unless ← isSymbol "\x7d" do unexpected
  return (child, (← offset) + 1)

/-- Offsets of brackets that text must not hold. -/
def misplacedBrackets (text : SourceText) (start stop : Nat) : List Nat :=
  (List.range' start (stop - start)).filter fun offset =>
    text.holdsAt offset fun character => character = '>' || character = '\x7d'

/-- The next child at an offset, with the offset past it. -/
def child (rules : Rules) (start : Nat) : Parser (Child × Nat) := do
  let text := (← read).text
  let stop := text.skipWhile (fun character => character != '<' && character != '\x7b') start
  (misplacedBrackets text start stop).forM note
  if text.holdsAt stop (· = '\x7b') then childExpression rules stop
  else if text.holdsAt stop (· = '<') then
    resumeAt (stop + 1)
    if ← startsWith '/' then
      let closing ← closingTag stop
      return (closing, stop)
    else
      let (element, past) ← rules.apply (.element stop)
      return (.part element, past)
  else failAt text.size

/-- The children of an element and the closing tag, which must have the same
name. Gives the closing name again, and the offset past the tag. -/
def children (rules : Rules) (name : Option MarkupName) (start : Nat) :
    Parser (List Part × List Part × Nat) := do
  let step (found : List Part × Child × Nat) : Parser (Option (List Part × Child × Nat)) := do
    match found.2.1 with
    | .closing .. => return none
    | .part part =>
        let (after, stop) ← child rules found.2.2
        return some (part :: found.1, after, stop)
    | .nothing =>
        let (after, stop) ← child rules found.2.2
        return some (found.1, after, stop)
  let (parts, last, _) ← extend step ([], .nothing, start)
  match last with
  | .closing tagStart closingName stop =>
      if closingName.map (·.written) = name.map (·.written) then
        return (parts.reverse, (closingName.map MarkupName.parts).getD [], stop)
      else failAt tagStart
  | _ => failAt start

/-- The element whose bracket stands at an offset, with the offset past it. -/
def element (rules : Rules) (start : Nat) : Parser (Part × Nat) := do
  resumeAt (start + 1)
  if ← startsWith '>' then
    let (parts, _, stop) ← children rules none ((← offset) + 1)
    return (.construct .fragment parts, stop)
  else
    let name ← elementName
    let arguments ← if ← isTyped then optionalTypeArguments rules else pure []
    let attributes ← collect do
      if (← startsWith '>') || (← startsWith '/') then return none
      else return some (← elementAttribute rules)
    if ← eatCharacter '/' then
      unless ← startsWith '>' do unexpected
      return (.construct .element (name.parts ++ attributes ++ arguments), (← offset) + 1)
    else
      let (parts, closing, stop) ← children rules (some name) ((← offset) + 1)
      return (.construct .element (name.parts ++ attributes ++ arguments ++ parts ++ closing), stop)

end DirectiveScan.Grammar
