import DirectiveScan.Grammar.Rule
import DirectiveScan.Grammar.Template

namespace DirectiveScan.Grammar

open DirectiveScan.Parser

/-! Types, in the dialects that have them. Of a type only the names, literals and
expressions in it are kept. -/

def typeOf (parts : List Part) : Part := .construct .typeExpression parts

/-! ## Names -/

/-- Words divided by points: the first one and those behind it. -/
def dottedWords : Parser (String × List String) := do
  let first ← anyWord
  let rest ← collect do
    if ← eatSymbol "." then return some (← anyWord) else return none
  return (first, rest)

/-- A name with points: something that is declared, and what is taken from it. -/
def entityName : Parser (List Part) := do
  let (first, rest) ← dottedWords
  return .node (.identifier first) :: rest.map .name

/-- Types in angle brackets. -/
def typeArguments (rules : Rules) : Parser (List Part) := bracketed do
  expectCharacter '<'
  let types ← collect do
    if ← startsWith '>' then return none
    let type ← rules.type
    unless ← startsWith '>' do expectSymbol ","
    return some type
  if types.isEmpty then unexpected
  expectCharacter '>'
  return types

/-- Types in angle brackets, if there are any on this line. -/
def optionalTypeArguments (rules : Rules) : Parser (List Part) := do
  if !(← current).afterLineEnd && (← startsWith '<') then
    return [.construct .typeArguments (← typeArguments rules)]
  else return []

/-- One type parameter with its bound and default. -/
def typeParameter (rules : Rules) : Parser (List Part) := do
  let _ ← collect do
    let lexeme ← current
    let following ← next
    let isModifier := ["const", "in", "out"].any lexeme.isWord
    match following.token with
    | .word .. =>
        if isModifier && !following.isWord "extends" then
          advance
          return some ()
        else return none
    | _ => return none
  let name ← anyWord
  let bound ← if ← eatWord "extends" then (do return [← rules.type]) else pure []
  let default ← if ← eatSymbol "=" then (do return [← rules.type]) else pure []
  return .node (.identifier name) :: (bound ++ default)

/-- Type parameters in angle brackets. -/
def typeParameters (rules : Rules) : Parser Part := bracketed do
  expectCharacter '<'
  let parameters ← collect do
    if ← startsWith '>' then return none
    let parameter ← typeParameter rules
    unless ← startsWith '>' do expectSymbol ","
    return some parameter
  if parameters.isEmpty then unexpected
  expectCharacter '>'
  return .construct .typeParameters parameters.flatten

def optionalTypeParameters (rules : Rules) : Parser (List Part) := do
  if (← isTyped) && (← isSymbol "<") then return [← typeParameters rules] else return []

/-- A type after a colon, if the dialect has types and it is there. -/
def typeAfterColon (rules : Rules) : Parser (List Part) := do
  if ← eatTypedSymbol ":" then return [← bracketed rules.type] else return []

/-- The type of a result: a type, or a statement about a parameter. -/
def resultType (rules : Rules) : Parser Part := bracketed do
  let lexeme ← current
  let following ← next
  let isSubject (found : Lexeme) := found.isIdentifier || found.isWord "this"
  let subject (name : String) : List Part :=
    if name = "this" then [] else [.node (.identifier name)]
  if lexeme.isWord "asserts" && isSubject following && !following.afterLineEnd &&
      !following.isWord "is" then
    advance
    let name ← anyWord
    let type ← if ← eatWord "is" then (do return [← rules.type]) else pure []
    return .construct .typePredicate (subject name ++ type)
  else if isSubject lexeme && following.isWord "is" && !following.afterLineEnd then
    let name ← anyWord
    advance
    return .construct .typePredicate (subject name ++ [← rules.type])
  else rules.type

def resultAfterColon (rules : Rules) : Parser (List Part) := do
  if ← eatTypedSymbol ":" then return [← resultType rules] else return []

/-! ## Signatures -/

def signatureParameter (rules : Rules) : Parser Part := do
  let _ ← eatSymbol "..."
  let target ← if ← isWord "this" then (do return Target.identifier (← anyWord)) else rules.target
  let _ ← eatSymbol "?"
  return .construct .parameter [(target.annotate (← typeAfterColon rules)).part]

def signatureParameters (rules : Rules) : Parser (List Part) := do
  expectSymbol "("
  bracketed (commaList (signatureParameter rules) ")")

/-- A call: parameters, result and type parameters in the order of visits. -/
def callSignature (rules : Rules) : Parser (List Part) := do
  let typeParameters ← optionalTypeParameters rules
  let parameters ← signatureParameters rules
  let result ← resultAfterColon rules
  return parameters ++ result ++ typeParameters

/-- A function type: parameters, type parameters and result. -/
def functionType (rules : Rules) : Parser Part := do
  let typeParameters ← optionalTypeParameters rules
  let parameters ← signatureParameters rules
  expectSymbol "=>"
  let result ← resultType rules
  return .construct .functionType (parameters ++ typeParameters ++ [result])

def memberKey (rules : Rules) : Parser Expr := do
  match (← current).token with
  | .word text _ =>
      advance
      return .node (.identifier text)
  | .string text =>
      advance
      return .node (.string text)
  | .number _ =>
      advance
      return .other .numeric []
  | .bigInt =>
      advance
      return .other .bigInt []
  | _ =>
      expectSymbol "["
      let key ← bracketed rules.assignment
      expectSymbol "]"
      return key

/-- Whether a modifier word is followed by the rest of a member. -/
def modifierFollows : Parser Bool := do
  let following ← next
  return !following.afterLineEnd &&
    !following.isOneOf ["(", "<", ":", "?", ",", ";", "\x7d", "=", "!"] &&
    (match following.token with
      | .endOfText => false
      | _ => true)

/-- Whether the brackets here name a parameter rather than a computed key. -/
def isIndexSignature : Parser Bool := lookahead do
  expectSymbol "["
  let _ ← identifier
  isSymbol ":"

/-- A signature for computed keys, its modifiers already read. -/
def indexSignature (rules : Rules) : Parser Part := do
  expectSymbol "["
  let name ← identifier
  let keyType ← typeAfterColon rules
  expectSymbol "]"
  let type ← typeAfterColon rules
  return .construct .indexSignature
    ((Target.annotate (.identifier name) keyType).part :: type)

/-- A member divider: a semicolon, a comma, a line end or the end of the body. -/
def memberEnd : Parser Unit := do
  unless ← eatSymbol "," do expectStatementEnd

/-- One member of an interface or object type. -/
def typeMember (rules : Rules) : Parser Part := do
  if ← isOneOf ["(", "<"] then
    let parts ← callSignature rules
    memberEnd
    return .construct .typeMember parts
  else if (← isWord "new") && (← next).isOneOf ["(", "<"] then
    advance
    let parts ← callSignature rules
    memberEnd
    return .construct .typeMember parts
  else
    if (← isWord "readonly") && (← modifierFollows) then advance
    if (← isSymbol "[") && (← isIndexSignature) then
      let signature ← indexSignature rules
      memberEnd
      return signature
    else
      let isAccessor := ((← isWord "get") || (← isWord "set")) && (← modifierFollows)
      if isAccessor then advance
      let key ← memberKey rules
      let _ ← eatSymbol "?"
      let parts ← if ← isOneOf ["(", "<"] then callSignature rules else typeAfterColon rules
      memberEnd
      return .construct .typeMember (.expr key :: parts)

/-- The members of an interface or object type, in braces. -/
def typeMembers (rules : Rules) : Parser (List Part) := bracketed do
  expectSymbol "\x7b"
  let members ← collect do
    if ← isSymbol "\x7d" then return none else return some (← typeMember rules)
  expectSymbol "\x7d"
  return members

/-! ## Types proper -/

/-- Whether braces open a type that maps keys. -/
def isMappedType : Parser Bool := lookahead do
  expectSymbol "\x7b"
  if ← isOneOf ["+", "-"] then
    advance
    isWord "readonly"
  else
    let _ ← eatWord "readonly"
    expectSymbol "["
    let _ ← anyWord
    isWord "in"

/-- A sign before a modifier of a mapped type. -/
def eatSign : Parser Unit := do
  if ← isOneOf ["+", "-"] then advance

def mappedType (rules : Rules) : Parser Part := bracketed do
  expectSymbol "\x7b"
  eatSign
  let _ ← eatWord "readonly"
  expectSymbol "["
  let name ← anyWord
  expectWord "in"
  let keys ← rules.type
  let renamed ← if ← eatWord "as" then (do return [← rules.type]) else pure []
  expectSymbol "]"
  eatSign
  let _ ← eatSymbol "?"
  let type ← typeAfterColon rules
  let _ ← eatStatementEnd
  expectSymbol "\x7d"
  return typeOf (.node (.identifier name) :: keys :: (renamed ++ type))

def tupleElement (rules : Rules) : Parser Part := do
  let _ ← eatSymbol "..."
  let isLabel ← lookahead do
    let _ ← anyWord
    let _ ← eatSymbol "?"
    isSymbol ":"
  let label ← if isLabel then
      (do
        let name ← anyWord
        let _ ← eatSymbol "?"
        expectSymbol ":"
        return [Part.node (.identifier name)])
    else pure []
  let type ← rules.type
  let _ ← eatSymbol "?"
  return typeOf (label ++ [type])

/-- Words that are types by themselves. -/
def keywordTypes : List String :=
  ["any", "unknown", "number", "object", "boolean", "bigint", "string", "symbol", "void",
   "undefined", "null", "never", "intrinsic", "this"]

/-- A type taken from a module. -/
def importType (rules : Rules) : Parser Part := do
  expectWord "import"
  expectSymbol "("
  let path ← match (← current).token with
    | .string text =>
        advance
        pure (Part.node (.string text))
    | _ => unexpected
  expectSymbol ")"
  let qualifier ← if ← eatSymbol "." then entityName else pure []
  let arguments ← optionalTypeArguments rules
  return typeOf (path :: (qualifier ++ arguments))

/-- Whether a function type starts here. -/
def isFunctionType (rules : Rules) : Parser Bool := do
  if ← isSymbol "<" then return true
  else if ← isSymbol "(" then
    lookahead do
      let _ ← signatureParameters rules
      isSymbol "=>"
  else return false

/-- A type that no operator surrounds. -/
def primaryType (rules : Rules) : Parser Part := do
  let lexeme ← current
  match lexeme.token with
  | .string text =>
      advance
      return typeOf [.node (.string text)]
  | .number _ | .bigInt =>
      advance
      return typeOf []
  | .templateQuote => return typeOf (← templatePieces false (bracketed rules.type))
  | .word "true" false =>
      advance
      return typeOf [.node (.boolean true)]
  | .word "false" false =>
      advance
      return typeOf [.node (.boolean false)]
  | .word "typeof" false =>
      advance
      if ← isWord "import" then importType rules
      else
        let name ← entityName
        return typeOf (name ++ (← optionalTypeArguments rules))
  | .word "import" false => importType rules
  | .word text false =>
      if keywordTypes.contains text && !(← next).isSymbol "." then
        advance
        return typeOf []
      else if Word.reserved.contains text then unexpected
      else
        let name ← entityName
        return .construct .typeReference (name ++ (← optionalTypeArguments rules))
  | .word _ true =>
      let name ← entityName
      return .construct .typeReference (name ++ (← optionalTypeArguments rules))
  | .punctuator "-" =>
      advance
      match (← current).token with
      | .number _ | .bigInt =>
          advance
          return typeOf []
      | _ => unexpected
  | .punctuator "(" =>
      advance
      let type ← bracketed rules.type
      expectSymbol ")"
      return typeOf [type]
  | .punctuator "[" =>
      advance
      return typeOf (← bracketed (commaList (tupleElement rules) "]"))
  | .punctuator "\x7b" =>
      if ← isMappedType then mappedType rules
      else return typeOf (← typeMembers rules)
  | _ => unexpected

/-- A type followed by brackets: arrays and indexed types. -/
def postfixType (rules : Rules) : Parser Part := do
  let type ← primaryType rules
  extend
    (fun type => do
      if (← current).afterLineEnd then return none
      else if ← eatSymbol "[" then
        if ← eatSymbol "]" then return some (typeOf [type])
        else
          let index ← bracketed rules.type
          expectSymbol "]"
          return some (typeOf [type, index])
      else return none)
    type

/-- Words that change the type after them. -/
def typeOperators : List String := ["keyof", "unique", "readonly"]

/-- A type after any number of such words. -/
def operatorType (rules : Rules) : Parser Part := do
  let _ ← collect do
    let lexeme ← current
    let following ← next
    let startsType :=
      match following.token with
      | .word .. | .string _ | .templateQuote => true
      | .punctuator symbol => ["(", "[", "\x7b"].contains symbol
      | _ => false
    if typeOperators.any lexeme.isWord && startsType then
      advance
      return some ()
    else return none
  if (← isWord "infer") && (← next).isIdentifier then
    advance
    let name ← anyWord
    let bound ← attempt do
      expectWord "extends"
      let bound ← postfixType rules
      if ← isSymbol "?" then unexpected
      return bound
    return typeOf (.node (.identifier name) :: bound.toList)
  else postfixType rules

/-- Types joined by a symbol, which may also stand in front of the first. -/
def joinedTypes (symbol : String) (part : Parser Part) : Parser Part := do
  let _ ← eatSymbol symbol
  let first ← part
  let rest ← collect do
    if ← eatSymbol symbol then return some (← part) else return none
  if rest.isEmpty then return first else return typeOf (first :: rest)

/-- A type without a condition. -/
def plainType (rules : Rules) : Parser Part := do
  let isAbstract := (← isWord "abstract") && (← next).isWord "new"
  if isAbstract then advance
  if isAbstract || (← isWord "new") then
    advance
    functionType rules
  else if ← isFunctionType rules then functionType rules
  else joinedTypes "|" (joinedTypes "&" do
    if ← isFunctionType rules then functionType rules else operatorType rules)

/-- A type, possibly chosen by a condition. -/
def type (rules : Rules) : Parser Part := do
  let checked ← plainType rules
  if (← isWord "extends") && !(← current).afterLineEnd then
    advance
    let bound ← plainType rules
    expectSymbol "?"
    let first ← rules.type
    expectSymbol ":"
    let second ← rules.type
    return typeOf [checked, bound, first, second]
  else return checked

end DirectiveScan.Grammar
