import DirectiveScan.Grammar.Statement

namespace DirectiveScan.Grammar

open DirectiveScan.Parser

/-! Declarations that only typed code has. -/

/-- An interface after its keyword. -/
def interfaceDeclaration (rules : Rules) : Parser Part := do
  let name ← identifier
  let typeParameters ← optionalTypeParameters rules
  let parents ← if ← eatWord "extends" then heritageList rules else pure []
  let members ← typeMembers rules
  return .construct .interfaceDeclaration
    (.node (.identifier name) :: (typeParameters ++ parents ++ members))

def typeAlias (rules : Rules) : Parser Part := do
  let name ← identifier
  let typeParameters ← optionalTypeParameters rules
  expectSymbol "="
  let type ← rules.type
  expectStatementEnd
  return .construct .typeAlias (.node (.identifier name) :: (typeParameters ++ [type]))

def enumMember (rules : Rules) : Parser Part := do
  let key ← propertyKey rules
  let parts :=
    match key with
    | .name word => [Part.node (.identifier word)]
    | .computed (.node (.string text)) => [.node (.string text)]
    | _ => key.parts
  let value ←
    if ← eatSymbol "=" then (do return [Part.expr (← rules.assignment)]) else pure []
  return .construct .enumMember (parts ++ value)

/-- An enumeration after its keyword. -/
def enumDeclaration (rules : Rules) : Parser Part := do
  let name ← identifier
  expectSymbol "\x7b"
  let members ← bracketed (commaList (enumMember rules) "\x7d")
  return .construct .enumDeclaration (.node (.identifier name) :: members)

/-- Items in braces. -/
def namespaceBody (rules : Rules) : Parser (List Part) := do
  expectSymbol "\x7b"
  let items ← collect do
    if ← isSymbol "\x7d" then return none else return some (← rules.apply .item)
  expectSymbol "\x7d"
  return items

/-- A namespace after its keyword: names with points, or the path of a module,
whose body may be left out. -/
def namespaceDeclaration (rules : Rules) : Parser Part := do
  match (← current).token with
  | .string text =>
      advance
      let body ←
        if ← isSymbol "\x7b" then namespaceBody rules
        else
          (do
            expectStatementEnd
            pure [])
      return .construct .namespaceDeclaration (.node (.string text) :: body)
  | _ =>
      let (first, rest) ← dottedWords
      let names := (first :: rest).map fun name => Part.node (.identifier name)
      return .construct .namespaceDeclaration (names ++ (← namespaceBody rules))

/-- A description of code found elsewhere, after its keyword. -/
def ambientDeclaration (rules : Rules) : Parser Part :=
  withReader (fun surroundings => { surroundings with isAmbient := true }) do
    if (← isWord "global") && (← next).isSymbol "\x7b" then
      advance
      return .construct .namespaceDeclaration
        (.node (.identifier "global") :: (← namespaceBody rules))
    else rules.statement

/-- A declaration of variables that are cleaned up where their block ends. It is
no node, unlike the variables in it. -/
def usingDeclaration (rules : Rules) : Parser Part := do
  let keywordStop := (← current).stop
  advance
  let declared ← declarators rules .functionScoped false keywordStop
  expectStatementEnd
  return .construct .usingDeclaration
    (declared.map fun found => .node (.variableDeclarator found.2))

/-- What declaration of typed code starts here, after its keyword. -/
def typedDeclaration? (rules : Rules) : Parser (Option (Parser Part)) := do
  let lexeme ← current
  let following ← next
  let sameLine := !following.afterLineEnd
  let declares := ["var", "let", "const", "function", "class", "interface", "type", "enum",
    "namespace", "module", "global", "abstract", "async", "import"]
  let after (parser : Rules → Parser Part) : Option (Parser Part) := some do
    advance
    parser rules
  if lexeme.isWord "enum" && following.isIdentifier then return after enumDeclaration
  else if lexeme.isWord "const" && following.isWord "enum" then
    return some do
      advance
      advance
      enumDeclaration rules
  else if !sameLine then return none
  else if lexeme.isWord "interface" && following.isIdentifier then
    return after interfaceDeclaration
  else if lexeme.isWord "type" && following.isIdentifier then return after typeAlias
  else if lexeme.isWord "using" && following.isIdentifier && !following.isWord "of" then
    return some (usingDeclaration rules)
  else if (lexeme.isWord "namespace" || lexeme.isWord "module") &&
      (following.isIdentifier || following.isString) then
    return after namespaceDeclaration
  else if lexeme.isWord "abstract" && following.isWord "class" then
    return some do
      advance
      advance
      classDeclaration rules
  else if lexeme.isWord "declare" && declares.any following.isWord then
    return after ambientDeclaration
  else return none

def statement (rules : Rules) : Parser Part := do
  if ← isTyped then
    match ← typedDeclaration? rules with
    | some declaration => declaration
    | none => plainStatement rules
  else plainStatement rules

end DirectiveScan.Grammar
