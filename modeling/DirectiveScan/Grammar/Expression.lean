import DirectiveScan.Grammar.Class
import DirectiveScan.Grammar.Markup

namespace DirectiveScan.Grammar

open DirectiveScan.Parser

/-! Expressions, from literals up to choices between two values. -/

/-! ## Calls and members -/

/-- One argument of a call; spread arguments count as their value. -/
def argument (rules : Rules) : Parser Expr := do
  let _ ← eatSymbol "..."
  rules.assignment

/-- Arguments in parentheses. -/
def arguments (rules : Rules) : Parser (List Expr) := do
  expectSymbol "("
  bracketed (commaList (argument rules) ")")

/-- Whether an expression continues an optional chain, so that what follows it
belongs to the chain as well. -/
def isOptionalChain : Expr → Bool
  | .other .optionalChain _ => true
  | .wrapped .nonNull inner _ => isOptionalChain inner
  | _ => false

/-- A member access, in or outside of an optional chain. -/
def memberAccess (object : Expr) (property : MemberName) (isOptional : Bool) : Expr :=
  let node := Node.member object property
  if isOptional || isOptionalChain object then .other .optionalChain [.node node] else .node node

/-- A call, in or outside of an optional chain. A call in a chain is no node. -/
def callExpression (start : Nat) (callee : Expr) (arguments : List Expr)
    (typeArguments : List Part) (isOptional : Bool) : Expr :=
  if isOptional || isOptionalChain callee then
    .other .optionalChain (.expr callee :: (arguments.map Part.expr ++ typeArguments))
  else .node (.call start (.expr callee) arguments typeArguments)

/-- The property after a point. -/
def memberName? : Parser MemberName := do
  match (← current).token with
  | .privateName name =>
      advance
      return .privateName name
  | _ => return .name (← anyWord)

/-- The property in brackets. -/
def computedMember (rules : Rules) : Parser MemberName := do
  expectSymbol "["
  let property ← bracketed rules.expression
  expectSymbol "]"
  return .computed property

/-- The expressions of a template with or without a tag. -/
def templateExpressions (rules : Rules) (isTagged : Bool) : Parser (List Part) := do
  let pieces ← templatePieces isTagged (bracketed rules.expression)
  return pieces.map Part.expr

def isTemplate : Parser Bool := do
  match (← current).token with
  | .templateQuote => return true
  | _ => return false

/-- A template whose tag has been read. -/
def taggedTemplate (rules : Rules) (tag : Expr) (typeArguments : List Part) : Parser Expr := do
  if isOptionalChain tag then note (← offset)
  let pieces ← templateExpressions rules true
  return .other .taggedTemplate (.expr tag :: (typeArguments ++ pieces))

/-- Symbols after which type arguments stand alone, without a call. -/
def endsTypeArguments : Parser Bool := do
  let lexeme ← current
  if lexeme.afterLineEnd then return true
  match lexeme.token with
  | .endOfText => return true
  | .punctuator symbol =>
      let opens := ["(", "[", "\x7b", "<", ">", "+", "-", "!", "~", "++", "--", "/", "/=", "@"]
      return !opens.contains symbol
  | .word text false =>
      return ["in", "instanceof", "as", "satisfies", "implements", "of"].contains text
  | _ => return false

/-- What may follow type arguments: a call, a template, or nothing. -/
def typeArgumentsRest (rules : Rules) (start : Nat) (callee : Expr) (canCall inClass : Bool) :
    Parser Expr := do
  let types ← typeArguments rules
  let group := [Part.construct .typeArguments types]
  if canCall && (← isSymbol "(") then
    return callExpression start callee (← arguments rules) group false
  else if ← isTemplate then taggedTemplate rules callee group
  else if (inClass && (← isSymbol "\x7b")) || (← endsTypeArguments) then
    return .other .other (.expr callee :: group)
  else unexpected

/-- What may follow a question mark and a point. -/
def optionalRest (rules : Rules) (start : Nat) (object : Expr) : Parser Expr := do
  if ← isSymbol "(" then
    return callExpression start object (← arguments rules) [] true
  else if ← isSymbol "[" then return memberAccess object (← computedMember rules) true
  else if (← isTyped) && (← isSymbol "<") then
    let types ← typeArguments rules
    return callExpression start object (← arguments rules) [.construct .typeArguments types] true
  else if ← isTemplate then unexpected
  else return memberAccess object (← memberName?) true

structure Continuation where
  /-- Whether parentheses make a call. -/
  canCall : Bool
  /-- Whether the expression stands before the body of a class. -/
  inClass : Bool

/-- Continue an expression that started at `start` by one member access, call or
template, if there is one. -/
def continueExpression (rules : Rules) (how : Continuation) (start : Nat) (expr : Expr) :
    Parser (Option Expr) := do
  let lexeme ← current
  match lexeme.token with
  | .templateQuote => return some (← taggedTemplate rules expr [])
  | .punctuator "." =>
      advance
      return some (memberAccess expr (← memberName?) false)
  | .punctuator "?." =>
      unless how.canCall do unexpected
      advance
      return some (← optionalRest rules start expr)
  | .punctuator "[" => return some (memberAccess expr (← computedMember rules) false)
  | .punctuator "(" =>
      if how.canCall then
        return some (callExpression start expr (← arguments rules) [] false)
      else return none
  | .punctuator "!" =>
      if (← isTyped) && !lexeme.afterLineEnd then
        advance
        return some (.wrapped .nonNull expr [])
      else return none
  | .punctuator symbol =>
      if (← isTyped) && (symbol = "<" || symbol = "<<") then
        attempt (typeArgumentsRest rules start expr how.canCall how.inClass)
      else return none
  | _ => return none

/-! ## Literals and other primary expressions -/

def arrayElement (rules : Rules) : Parser Element := do
  if ← isSymbol "," then return .hole
  else if ← eatSymbol "..." then return .spread (← rules.assignment)
  else return .value (← rules.assignment)

def arrayLiteral (rules : Rules) : Parser Expr := do
  expectSymbol "["
  return .node (.array (← bracketed (commaList (arrayElement rules) "]")))

/-- A getter or setter after its word, in the order of visits. -/
def objectAccessor (rules : Rules) (isGetter : Bool) : Parser Entry :=
  withReader (Surroundings.enter ⟨false, false⟩) do
    let start ← offset
    let key ← propertyKey rules
    let first := (← next).start
    let parameters ← parameters rules
    checkAccessor isGetter start first parameters
    let result ← resultAfterColon rules
    let body ← functionBody rules parameters
    if isGetter then return .method key (result ++ [body])
    else return .method key (parameters ++ [body])

/-- A method after its modifiers. -/
def objectMethod (rules : Rules) (flags : FunctionFlags) (key : PropertyKey) : Parser Entry := do
  let (parameters, body) ← functionRest rules flags
  return .method key (parameters ++ body)

/-- Whether the word here modifies the entry after it. -/
def modifiesEntry : Parser Bool := do
  match (← next).token with
  | .word .. | .string _ | .number _ | .bigInt => return true
  | .punctuator symbol => return symbol = "["
  | _ => return false

/-- An entry of an object literal that starts with a key. -/
def keyedEntry (rules : Rules) : Parser Entry := do
  let lexeme ← current
  let key ← propertyKey rules
  if ← eatSymbol ":" then return .property key (← rules.assignment)
  else if (← isSymbol "(") || ((← isTyped) && (← isSymbol "<")) then
    objectMethod rules ⟨false, false⟩ key
  else
    match key with
    | .name name =>
        unless ← isOneOf ["=", ",", "\x7d"] do unexpected
        checkName lexeme
        if ← eatSymbol "=" then
          modify fun cursor => { cursor with patternFaults := cursor.patternFaults.push lexeme.start }
          return .initialized name (← rules.assignment)
        else return .shorthand name
    | _ => unexpected

def objectEntry (rules : Rules) : Parser Entry := do
  if ← eatSymbol "..." then return .spread (← rules.assignment)
  else if ← eatSymbol "*" then
    let key ← propertyKey rules
    objectMethod rules ⟨false, true⟩ key
  else if (← isWord "get") && (← modifiesEntry) then
    advance
    objectAccessor rules true
  else if (← isWord "set") && (← modifiesEntry) then
    advance
    objectAccessor rules false
  else if (← isWord "async") && !(← next).afterLineEnd &&
      ((← modifiesEntry) || (← next).isSymbol "*") then
    advance
    let isGenerator ← eatSymbol "*"
    let key ← propertyKey rules
    objectMethod rules ⟨true, isGenerator⟩ key
  else keyedEntry rules

/-- The entries of an object literal, in braces. -/
def objectEntries (rules : Rules) : Parser (List Entry) := do
  expectSymbol "\x7b"
  bracketed (commaList (objectEntry rules) "\x7d")

/-- A regular expression whose slash is the current token. -/
def regExp : Parser Expr := do
  let start ← offset
  match Literal.regExp? (← read).text start with
  | none => failAt start
  | some (stop, hasKnownFlags) =>
      unless hasKnownFlags do note start
      resumeAt stop
      return .other .regExp []

def parenthesized (rules : Rules) : Parser Expr := do
  let start ← offset
  advance
  if ← isSymbol ")" then failAt start
  let first ← bracketed rules.assignment
  let rest ← collect do
    if ← isSymbol "," then
      let comma ← offset
      advance
      if ← isSymbol ")" then failAt comma
      return some (← bracketed rules.assignment)
    else return none
  expectSymbol ")"
  let inner := if rest.isEmpty then first else .other .sequence ((first :: rest).map Part.expr)
  return .wrapped .parentheses inner []

/-- A function after its keyword. -/
def functionExpression (rules : Rules) (isAsync : Bool) : Parser Expr := do
  let (name, flags, parameters, body) ← namedFunction rules isAsync
  return .node (.function name flags parameters body)

/-- A literal or keyword without parts. -/
def simple (expr : Expr) : Parser Expr := do
  advance
  return expr

def wordExpression (rules : Rules) (word : String) : Parser Expr := do
  match word with
  | "this" => simple (.other .this [])
  | "null" => simple (.other .null [])
  | "true" => simple (.node (.boolean true))
  | "false" => simple (.node (.boolean false))
  | "function" =>
      advance
      functionExpression rules false
  | "class" =>
      advance
      return .other .classDefinition (← classParts rules (← className))
  | "async" =>
      let following ← next
      if following.isWord "function" && !following.afterLineEnd then
        advance
        advance
        functionExpression rules true
      else return .node (.identifier (← identifier))
  | _ => return .node (.identifier (← identifier))

/-- An expression that no operator surrounds. -/
def primary (rules : Rules) : Parser Expr := do
  let lexeme ← current
  match lexeme.token with
  | .word text false => wordExpression rules text
  | .word _ true => return .node (.identifier (← identifier))
  | .string text => simple (.node (.string text))
  | .number _ => simple (.other .numeric [])
  | .bigInt => simple (.other .bigInt [])
  | .templateQuote => return .other .template (← templateExpressions rules false)
  | .privateName _ =>
      if (← next).isWord "in" then simple (.other .other []) else unexpected
  | .punctuator "(" => parenthesized rules
  | .punctuator "[" => arrayLiteral rules
  | .punctuator "\x7b" => return .node (.object (← objectEntries rules))
  | .punctuator "/" => regExp
  | .punctuator "/=" => regExp
  | .punctuator "<" =>
      if (← read).dialect.markup then
        let (element, stop) ← rules.apply (.element lexeme.start)
        resumeAt stop
        return .other .other [element]
      else unexpected
  | _ => unexpected

/-! ## Heads of chains -/

/-- Use of the superclass. -/
def superExpression (rules : Rules) : Parser Expr := do
  let start ← offset
  advance
  if ← isSymbol "(" then return .node (.call start .superClass (← arguments rules) [])
  else if ← eatSymbol "." then return .other .superMember [.name (← anyWord)]
  else
    match ← computedMember rules with
    | .computed property => return .other .superMember [.expr property]
    | _ => unexpected

/-- Use of the module loader. -/
def importExpression (rules : Rules) : Parser Expr := do
  let start ← offset
  advance
  if ← eatSymbol "." then
    modify fun cursor => { cursor with isModule := true }
    expectWord "meta"
    return .other .other []
  else return .node (.call start .moduleImport (← arguments rules) [])

/-- The type arguments between a constructor and its arguments. -/
def constructorTypeArguments (rules : Rules) : Parser (List Part) := do
  if (← isTyped) && (← isSymbol "<") then
    let found ← attempt do
      let types ← typeArguments rules
      unless (← isSymbol "(") || (← endsTypeArguments) do unexpected
      return [Part.construct .typeArguments types]
    return found.getD []
  else return []

/-- Creation of an object. -/
def newExpression (rules : Rules) : Parser Expr := do
  let start ← offset
  advance
  if ← eatSymbol "." then
    expectWord "target"
    unless (← read).allowsNewTarget do note start
    return .other .other []
  else
    let constructed ← rules.apply .constructed
    let (constructed, types) :=
      match constructed with
      | .other .other [.expr inner, .construct .typeArguments types] =>
          (inner, [Part.construct .typeArguments types])
      | _ => (constructed, [])
    let types ← if types.isEmpty then constructorTypeArguments rules else pure types
    let arguments ← if ← isSymbol "(" then arguments rules else pure []
    return .other .new (.expr constructed :: (arguments.map Part.expr ++ types))

/-- The start of a chain of members and calls. -/
def chainHead (rules : Rules) : Parser Expr := do
  if ← isWord "new" then newExpression rules
  else if ← isWord "super" then superExpression rules
  else if (← isWord "import") && (← next).isOneOf ["(", "."] then importExpression rules
  else primary rules

/-- What `new` creates: a chain of members. -/
def constructed (rules : Rules) : Parser Expr := do
  let start ← offset
  let head ← chainHead rules
  extend (continueExpression rules ⟨false, false⟩ start) head

/-- What a class extends: a chain of members and calls. -/
def superclassExpression (rules : Rules) : Parser Expr := do
  let start ← offset
  let head ← chainHead rules
  extend (continueExpression rules ⟨true, true⟩ start) head

/-- A chain of members and calls. -/
def chain (rules : Rules) : Parser Expr := do
  let start ← offset
  let head ← chainHead rules
  extend (continueExpression rules ⟨true, false⟩ start) head

/-! ## Operators -/

/-- Whether an expression is a name that strict code does not assign. -/
def isFixedName : Expr → Bool
  | .node (.identifier name) => Word.fixed.contains name
  | _ => false

/-- Note a target that cannot be assigned. -/
def checkAssignable (start : Nat) (target : Expr) : Parser Unit := do
  let isFixed := (← read).isStrict && isFixedName target
  unless target.isAssignable && !isFixed do note start

/-- Waiting for a value. At the top level this makes the program a module; where
nothing is waited for, the word is a name. -/
def awaitExpression (rules : Rules) : Parser Expr := do
  let surroundings ← read
  let start ← offset
  advance
  let endsHere := (← atStatementEnd) || (← isOneOf [")", "]", ","])
  if !surroundings.isAsync && endsHere then return .node (.identifier "await")
  else
    if !surroundings.inFunction then modify fun cursor => { cursor with isModule := true }
    if surroundings.inFunction && !surroundings.isAsync then note start
    let value ← rules.apply .unary
    return .other .await [.expr value.expr]

/-- A type assertion in front of its operand. A missing closing bracket does not
stop the parser. -/
def assertionExpression (rules : Rules) : Parser Expr := do
  advance
  if (← isWord "const") && (← next).isSymbol ">" then
    advance
    advance
    let value ← rules.apply .unary
    return .wrapped .asConst value.expr []
  else
    let type ← bracketed rules.type
    unless ← eatCharacter '>' do note (← offset)
    let value ← rules.apply .unary
    return .wrapped .assertion value.expr [type]

/-- Symbols and words that stand before their operand. -/
def isUnaryOperator (lexeme : Lexeme) : Bool :=
  lexeme.isOneOf ["+", "-", "~", "!"] || ["typeof", "void", "delete"].any lexeme.isWord

/-- A chain, possibly counted up or down. -/
def updated (rules : Rules) (start : Nat) : Parser Operand := do
  let expr ← chain rules
  if !(← current).afterLineEnd && (← isOneOf ["++", "--"]) then
    checkAssignable start expr
    advance
    return ⟨.other .update [.expr expr], start, none⟩
  else return ⟨expr, start, none⟩

/-- An expression with the operators in front of it. -/
def unary (rules : Rules) : Parser Operand := do
  let lexeme ← current
  let start := lexeme.start
  let dialect := (← read).dialect
  if isUnaryOperator lexeme then
    advance
    let operand ← rules.apply .unary
    match operand.expr with
    | .node (.identifier _) => if lexeme.isWord "delete" then noteStrict start
    | _ => pure ()
    return ⟨.other .unary [.expr operand.expr], start, some "!"⟩
  else if lexeme.isOneOf ["++", "--"] then
    advance
    let operand ← rules.apply .unary
    checkAssignable operand.start operand.expr
    return ⟨.other .update [.expr operand.expr], start, none⟩
  else if lexeme.isWord "await" then return ⟨← awaitExpression rules, start, none⟩
  else if lexeme.isSymbol "<" && dialect.typed && !dialect.markup then
    return ⟨← assertionExpression rules, start, none⟩
  else updated rules start

/-- How strongly an operator binds. -/
def precedence? : String → Option Nat
  | "??" => some 1
  | "||" => some 1
  | "&&" => some 2
  | "|" => some 3
  | "^" => some 4
  | "&" => some 5
  | "==" | "!=" | "===" | "!==" => some 6
  | "<" | ">" | "<=" | ">=" | "instanceof" | "in" | "as" | "satisfies" => some 7
  | "<<" | ">>" | ">>>" => some 8
  | "+" | "-" => some 9
  | "*" | "/" | "%" => some 10
  | "**" => some 11
  | _ => none

def binaryOperator? : Parser (Option String) := do
  let surroundings ← read
  let lexeme ← current
  match lexeme.token with
  | .punctuator symbol => return if (precedence? symbol).isSome then some symbol else none
  | .word "in" false => return if surroundings.allowsIn then some "in" else none
  | .word "instanceof" false => return some "instanceof"
  | .word "as" false =>
      return if surroundings.dialect.typed && !lexeme.afterLineEnd then some "as" else none
  | .word "satisfies" false =>
      return if surroundings.dialect.typed && !lexeme.afterLineEnd then some "satisfies" else none
  | _ => return none

/-- Whether two operators must not meet without parentheses. -/
def clash (operator : String) (inner : Option String) : Bool :=
  match operator, inner with
  | "??", some "||" | "??", some "&&" | "||", some "??" | "&&", some "??" => true
  | _, _ => false

/-- Extend an operand by an operator that binds stronger than a level. -/
def extendOperand (rules : Rules) (level : Nat) (left : Operand) : Parser (Option Operand) := do
  match ← binaryOperator? with
  | none => return none
  | some operator =>
      let strength := (precedence? operator).getD 0
      if strength ≤ level then return none
      else if operator = "as" && (← next).isWord "const" then
        advance
        advance
        return some ⟨.wrapped .asConst left.expr [], left.start, none⟩
      else if operator = "as" || operator = "satisfies" then
        advance
        let type ← rules.type
        let wrapper := if operator = "as" then Wrapper.asType else .satisfies
        return some ⟨.wrapped wrapper left.expr [type], left.start, none⟩
      else
        advance
        if operator = "**" && left.operator = some "!" then note left.start
        let right ← rules.apply (.operand (if operator = "**" then strength - 1 else strength))
        if clash operator left.operator || clash operator right.operator then note left.start
        return some ⟨.other .binary [.expr left.expr, .expr right.expr], left.start, some operator⟩

/-- An operand with the operators around it that bind stronger than a level. -/
def operand (rules : Rules) (level : Nat) : Parser Operand := do
  let left ← rules.apply .unary
  extend (extendOperand rules level) left

/-- A choice between two values, or a value. -/
def conditional (rules : Rules) : Parser Expr := do
  let test ← rules.apply (.operand 0)
  if ← eatSymbol "?" then
    let first ← withReader
      (fun surroundings => { surroundings with allowsIn := true, expectsColon := true })
      rules.assignment
    expectSymbol ":"
    let second ← rules.assignment
    return .other .conditional [.expr test.expr, .expr first, .expr second]
  else return test.expr

end DirectiveScan.Grammar
