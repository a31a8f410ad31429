import DirectiveScan.Grammar.Type

namespace DirectiveScan.Grammar

open DirectiveScan.Parser

/-! Targets of bindings, parameters and the bodies of functions. -/

/-! ## Keys -/

/-- The key of an object entry, class member or pattern entry. -/
def propertyKey (rules : Rules) : Parser PropertyKey := do
  match (← current).token with
  | .word text _ =>
      advance
      return .name text
  | .string text =>
      advance
      return .string text
  | .number value =>
      advance
      return .number value
  | .bigInt =>
      advance
      return .bigInt
  | _ =>
      expectSymbol "["
      let key ← bracketed rules.assignment
      expectSymbol "]"
      return .computed key

/-! ## Targets -/

def targetWithDefault (rules : Rules) (target : Target) : Parser Part := do
  if ← eatSymbol "=" then
    let value ← bracketed rules.assignment
    return .construct .assignmentPattern [target.part, .expr value]
  else return target.part

/-- Check that nothing follows what takes all that remains, which started at
`start`. A comma before the closing symbol is a mistake of its own. -/
def checkLast (closing : String) (start : Nat) : Parser Unit := do
  if ← isSymbol "," then
    if (← next).isSymbol closing then note (← offset) else note start

/-- An element of an array pattern; a hole has no parts. -/
def arrayTargetElement (rules : Rules) : Parser (List Part) := do
  if ← isSymbol "," then return []
  else
    let start ← offset
    if ← eatSymbol "..." then
      let target ← rules.target
      checkLast "]" start
      return [target.part]
    else return [← targetWithDefault rules (← rules.target)]

def objectTargetEntry (rules : Rules) : Parser (List Part) := do
  let lexeme ← current
  if ← eatSymbol "..." then
    let target ← rules.target
    match target with
    | .name .. => checkLast "\x7d" lexeme.start
    | .pattern .. => failAt lexeme.start
    return [target.part]
  else
    let key ← propertyKey rules
    if ← eatSymbol ":" then return key.parts ++ [← targetWithDefault rules (← rules.target)]
    else
      match key with
      | .name name =>
          checkName lexeme
          if Word.fixed.contains name then noteStrict lexeme.start
          if ← eatSymbol "=" then
            let value ← bracketed rules.assignment
            return [.node (.identifier name), .expr value]
          else return [.node (.identifier name)]
      | _ => unexpected

/-- A name or pattern that binds names. -/
def target (rules : Rules) : Parser Target := do
  if ← eatSymbol "[" then
    let elements ← commaList (arrayTargetElement rules) "]"
    return .pattern .array elements.flatten
  else if ← eatSymbol "\x7b" then
    let entries ← commaList (objectTargetEntry rules) "\x7d"
    return .pattern .object entries.flatten
  else return .identifier (← declaredName)

/-! ## Parameters -/

/-- Words that make a parameter of a constructor a field. -/
def parameterModifiers : List String := ["public", "private", "protected", "readonly", "override"]

/-- Skip the words that make a parameter a field. -/
def skipParameterModifiers : Parser Unit := do
  if ← isTyped then
    let _ ← collect do
      let lexeme ← current
      let following ← next
      let continues := following.isIdentifier || following.isOneOf ["\x7b", "["]
      if parameterModifiers.any lexeme.isWord && continues then
        advance
        return some ()
      else return none

def parameter (rules : Rules) : Parser Part := do
  skipParameterModifiers
  if ← isSymbol "..." then
    let start ← offset
    advance
    let target ← rules.target
    let types ← typeAfterColon rules
    checkLast ")" start
    return .construct .parameter [.construct .rest (target.part :: types)]
  else
    let isThis := (← isTyped) && (← isWord "this")
    let target ← if isThis then (do return Target.identifier (← anyWord)) else rules.target
    if ← isTyped then
      let _ ← eatSymbol "?"
    let annotated := target.annotate (← typeAfterColon rules)
    return .construct .parameter [← targetWithDefault rules annotated]

/-- Parameters in parentheses. -/
def parameters (rules : Rules) : Parser (List Part) := do
  expectSymbol "("
  bracketed (commaList (parameter rules) ")")

/-- Whether a parameter is a name without a default. -/
def isPlainParameter : Part → Bool
  | .construct .parameter [.node (.identifier _)] => true
  | .construct .parameter [.construct .binding _] => true
  | _ => false

/-- Whether a parameter only gives the type of `this`. -/
def isThisParameter : Part → Bool
  | .construct .parameter [.node (.identifier "this")] => true
  | .construct .parameter [.construct .binding (.node (.identifier "this") :: _)] => true
  | _ => false

def isRestParameter : Part → Bool
  | .construct .parameter [.construct .rest _] => true
  | _ => false

/-- Getters have no parameter, setters have one, which does not take all that
remains. The member is named at `start` and its first parameter stands at
`first`. -/
def checkAccessor (isGetter : Bool) (start first : Nat) (parameters : List Part) :
    Parser Unit := do
  let count := (parameters.filter (!isThisParameter ·)).length
  unless count = (if isGetter then 0 else 1) do note start
  if !isGetter && (parameters.head?.any isRestParameter) then note first

/-! ## Bodies -/

/-- The text of the directive that makes code strict. -/
def strictDirective : List Char := "use strict".toList

/-- Whether the current token is that directive. -/
def isStrictDirective : Parser Bool := do
  let lexeme ← current
  return lexeme.isString &&
    (← read).text.slice (lexeme.start + 1) (lexeme.stop - 1) = strictDirective

/-- Items up to a closing test. Strings in front may make the rest strict, which
is a mistake where `canBeStrict` does not hold. -/
def itemsUntil (closed : Parser Bool) (item : Parser Part) (canBeStrict : Bool) :
    Parser (List Part) := do
  let directives ← collect do
    let lexeme ← current
    if lexeme.isString && !(← isStrictDirective) && !(← closed) then return some (← item)
    else return none
  let isStrict ← isStrictDirective
  if isStrict && !canBeStrict then note (← offset)
  let rest ← withReader
    (fun surroundings => { surroundings with isStrict := surroundings.isStrict || isStrict })
    (collect do
      if ← closed then return none else return some (← item))
  return directives ++ rest

/-- Statements in braces. -/
def block (rules : Rules) : Parser Part := do
  expectSymbol "\x7b"
  let statements ← collect do
    if ← isSymbol "\x7d" then return none else return some (← rules.statement)
  expectSymbol "\x7d"
  return .construct .block statements

/-- What surrounds the inside of an arrow function. -/
def Surroundings.enterArrow (isAsync : Bool) (surroundings : Surroundings) : Surroundings :=
  { surroundings with
    inFunction := true
    isAsync := isAsync
    isGenerator := false
    allowsIn := true
    expectsColon := false
    canBreak := false
    canContinue := false
    labels := [] }

/-- What surrounds the inside of a function. -/
def Surroundings.enter (flags : FunctionFlags) (surroundings : Surroundings) : Surroundings :=
  { surroundings with
    inFunction := true
    allowsNewTarget := true
    isAsync := flags.isAsync
    isGenerator := flags.isGenerator
    allowsIn := true
    expectsColon := false
    canBreak := false
    canContinue := false
    labels := [] }

/-- The body of a function, in braces. Code that declares itself strict needs
plain parameters. -/
def functionBody (rules : Rules) (parameters : List Part) : Parser Part := do
  expectSymbol "\x7b"
  let statements ← itemsUntil (isSymbol "\x7d") rules.statement (parameters.all isPlainParameter)
  expectSymbol "\x7d"
  return .construct .block statements

/-- The parameters of a function, and what follows them in the order of visits:
body, type parameters, result. In typed code the body may be left out. -/
def functionRest (rules : Rules) (flags : FunctionFlags) : Parser (List Part × List Part) :=
  withReader (Surroundings.enter flags) do
    let typeParameters ← optionalTypeParameters rules
    let parameters ← parameters rules
    let result ← resultAfterColon rules
    let body ←
      if (← isTyped) && !(← isSymbol "\x7b") then
        (do
          expectStatementEnd
          pure [])
      else (do return [← functionBody rules parameters])
    return (parameters, body ++ typeParameters ++ result)

/-- A function after its keyword, with the name it may have. -/
def namedFunction (rules : Rules) (isAsync : Bool) :
    Parser (Option String × FunctionFlags × List Part × List Part) := do
  let flags : FunctionFlags := ⟨isAsync, ← eatSymbol "*"⟩
  let name ← if ← isIdentifier then (do return some (← declaredName)) else pure none
  let (parameters, body) ← functionRest rules flags
  return (name, flags, parameters, body)

/-! ## Arrow functions -/

/-- The parameters and result of an arrow function, up to its arrow. -/
def arrowHead (rules : Rules) (isAsync : Bool) : Parser (List Part × List Part) := do
  let expectsColon := (← read).expectsColon
  let parameters ← withReader (Surroundings.enterArrow isAsync) (parameters rules)
  let result ← if expectsColon then pure [] else resultAfterColon rules
  if (← current).afterLineEnd then unexpected
  expectSymbol "=>"
  return (parameters, result)

/-- The body of an arrow function: statements in braces, or a value. -/
def arrowBody (rules : Rules) (isAsync : Bool) (parameters : List Part) : Parser Part := do
  if ← isSymbol "\x7b" then
    withReader (Surroundings.enterArrow isAsync) (functionBody rules parameters)
  else
    let enter (surroundings : Surroundings) : Surroundings :=
      { Surroundings.enterArrow isAsync surroundings with
        allowsIn := surroundings.allowsIn
        expectsColon := surroundings.expectsColon }
    return .expr (← withReader enter rules.assignment)

/-- An arrow function whose head has been read. -/
def arrowFunction (rules : Rules) (isAsync : Bool) (parameters typeParameters result : List Part) :
    Parser Expr := do
  let body ← arrowBody rules isAsync parameters
  return .node (.arrow isAsync parameters (body :: (typeParameters ++ result)))

end DirectiveScan.Grammar
