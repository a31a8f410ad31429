import DirectiveScan.Grammar.Declaration

namespace DirectiveScan.Grammar

open DirectiveScan.Parser

/-! Imports and exports. -/

def identifierPart (name : String) : Part := .node (.identifier name)

/-- A string that is required here, such as the path of a module. -/
def requiredString : Parser Part := do
  match (← current).token with
  | .string text =>
      advance
      return .node (.string text)
  | _ => unexpected

/-- Attributes of an import, which typed code may have. -/
def importAttributes (rules : Rules) : Parser (List Part) := do
  let lexeme ← current
  let starts := lexeme.isWord "with" || lexeme.isWord "assert"
  if (← isTyped) && starts && !lexeme.afterLineEnd then
    advance
    return [.node (.object (← objectEntries rules))]
  else return []

/-- The path of a module with its attributes, at the end of a statement. -/
def fromClause (rules : Rules) : Parser (List Part) := do
  expectWord "from"
  let path ← requiredString
  let attributes ← importAttributes rules
  expectStatementEnd
  return path :: attributes

/-- A name exported by a module: a word or a string. -/
def exportedName : Parser Part := do
  match (← current).token with
  | .string _ => requiredString
  | _ => return identifierPart (← anyWord)

/-- Whether the word `type` modifies the name after it. -/
def isTypeModifier : Parser Bool := do
  let following ← next
  let startsName :=
    match following.token with
    | .word .. | .string _ => true
    | _ => false
  if (← isTyped) && (← isWord "type") && startsName then
    if following.isWord "as" then
      -- the word is a name in "type as local" and a modifier in "type as as local"
      lookahead do
        advance
        let after ← next
        return after.isWord "as" || after.isOneOf [",", "\x7d"]
    else return true
  else return false

/-! ## Imports -/

/-- A name taken from a module. The local name is visited first. -/
def importSpecifier : Parser Part := do
  if ← isTypeModifier then advance
  let lexeme ← current
  let imported ← exportedName
  if ← eatWord "as" then
    let name ← declaredName
    return .construct .importSpecifier [identifierPart name, imported]
  else if lexeme.isIdentifier then return .construct .importSpecifier [imported]
  else failAt lexeme.start

/-- All names of a module under one name. -/
def importedNamespace : Parser Part := do
  expectSymbol "*"
  expectWord "as"
  return .construct .importSpecifier [identifierPart (← declaredName)]

/-- Names in braces, or all names under one name. -/
def importedNames : Parser (List Part) := do
  if ← isSymbol "*" then return [← importedNamespace]
  else
    expectSymbol "\x7b"
    commaList importSpecifier "\x7d"

/-- A name for a module or for a member of a namespace, after the equals sign. -/
def importAlias (name : String) : Parser Part := do
  let value ←
    if (← isWord "require") && (← next).isSymbol "(" then
      (do
        advance
        advance
        let path ← requiredString
        expectSymbol ")"
        return [path])
    else entityName
  expectStatementEnd
  return .construct .importAlias (identifierPart name :: value)

/-- An import after its keyword. -/
def importRest (rules : Rules) : Parser Part := do
  let lexeme ← current
  if lexeme.isString then
    let path ← requiredString
    let attributes ← importAttributes rules
    expectStatementEnd
    return .construct .importDeclaration (path :: attributes)
  else
    let following ← next
    let isTypeOnly := (← isTyped) && lexeme.isWord "type" &&
      (following.isOneOf ["\x7b", "*"] || (following.isIdentifier && !following.isWord "from"))
    if isTypeOnly then advance
    if ← isIdentifier then
      let name ← identifier
      if ← eatTypedSymbol "=" then importAlias name
      else
        let further ← if ← eatSymbol "," then importedNames else pure []
        let source ← fromClause rules
        return .construct .importDeclaration
          (.construct .importSpecifier [identifierPart name] :: (further ++ source))
    else
      let names ← importedNames
      return .construct .importDeclaration (names ++ (← fromClause rules))

/-! ## Exports -/

/-- An exported name, with the word or string that it starts with. -/
def exportSpecifier : Parser (Lexeme × Part) := do
  if ← isTypeModifier then advance
  let lexeme ← current
  let name ← exportedName
  if ← eatWord "as" then return (lexeme, .construct .exportSpecifier [name, ← exportedName])
  else return (lexeme, .construct .exportSpecifier [name])

/-- Exported names in braces. Names that are not taken from another module are
identifiers. -/
def exportNames (rules : Rules) : Parser Part := do
  expectSymbol "\x7b"
  let specifiers ← commaList exportSpecifier "\x7d"
  let names := specifiers.map (·.2)
  if ← isWord "from" then return .construct .exportNames (names ++ (← fromClause rules))
  else
    (specifiers.filter (!·.1.isIdentifier)).forM fun specifier => note specifier.1.start
    expectStatementEnd
    return .construct .exportNames names

/-- All names of another module, under one name or their own. -/
def exportAll (rules : Rules) : Parser Part := do
  expectSymbol "*"
  if ← eatWord "as" then
    let name ← exportedName
    return .construct .exportNames (name :: (← fromClause rules))
  else return .construct .exportAll (← fromClause rules)

/-- A default export after its keywords. Functions and classes need no name. -/
def exportDefault (rules : Rules) : Parser Part := do
  let lexeme ← current
  let following ← next
  let isAsync := lexeme.isWord "async" && following.isWord "function" && !following.afterLineEnd
  let isAbstract := (← isTyped) && lexeme.isWord "abstract" && following.isWord "class"
  let isInterface := (← isTyped) && lexeme.isWord "interface" && following.isIdentifier
  if isAsync || isAbstract then advance
  if isInterface then
    advance
    return .construct .exportDefault [← interfaceDeclaration rules]
  else if ← eatWord "function" then
    let (name, flags, parameters, body) ← namedFunction rules isAsync
    return .construct .exportDefault [.node (.function name flags parameters body)]
  else if ← eatWord "class" then
    return .construct .exportDefault (← classParts rules (← className))
  else
    let value ← rules.assignment
    expectStatementEnd
    return .construct .exportDefault [.expr value]

/-- Whether an exported declaration starts here. -/
def declares : Parser Bool := do
  let lexeme ← current
  if ["var", "let", "const", "function", "class"].any lexeme.isWord then return true
  else if lexeme.isWord "async" then return (← next).isWord "function"
  else if ← isTyped then
    return ["enum", "interface", "type", "namespace", "module", "declare", "abstract"].any
      lexeme.isWord
  else return false

/-- An export after its keyword. -/
def exportRest (rules : Rules) : Parser Part := do
  if ← eatWord "default" then exportDefault rules
  else if ← isSymbol "*" then exportAll rules
  else if ← isSymbol "\x7b" then exportNames rules
  else if (← isTyped) && (← isWord "type") && (← next).isOneOf ["\x7b", "*"] then
    advance
    if ← isSymbol "*" then exportAll rules else exportNames rules
  else if ← eatTypedSymbol "=" then
    let value ← rules.expression
    expectStatementEnd
    return .construct .exportAssignment [.expr value]
  else if (← isTyped) && (← isWord "as") && (← next).isWord "namespace" then
    advance
    advance
    let name ← identifier
    expectStatementEnd
    return .construct .namespaceExport [identifierPart name]
  else if (← isTyped) && (← isWord "import") then
    advance
    importRest rules
  else if ← declares then return .construct .exportDeclaration [← rules.statement]
  else unexpected

/-- A statement, import or export. -/
def item (rules : Rules) : Parser Part := do
  if ← isWord "export" then
    advance
    exportRest rules
  else if (← isWord "import") && !(← next).isOneOf ["(", "."] then
    advance
    importRest rules
  else rules.statement

/-- Whether an item makes a program a module. -/
def isModuleItem : Part → Bool
  | .construct label _ =>
      [Construct.importDeclaration, .exportDeclaration, .exportDefault, .exportNames, .exportAll,
       .importAlias, .exportAssignment, .namespaceExport].contains label
  | _ => false

end DirectiveScan.Grammar
