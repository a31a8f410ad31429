import DirectiveScan.Grammar.Assignment

namespace DirectiveScan.Grammar

open DirectiveScan.Parser

/-! Statements and declarations of values. -/

/-! ## Variables -/

/-- The kind of variables that a keyword declares. -/
def variableKind? (lexeme : Lexeme) : Option VariableKind :=
  if lexeme.isWord "var" then some .functionScoped
  else if lexeme.isWord "let" then some .blockScoped
  else if lexeme.isWord "const" then some .constant
  else none

/-- Whether the word `let` starts a declaration here. -/
def letDeclares : Parser Bool := do
  let following ← next
  return following.isIdentifier || following.isOneOf ["[", "\x7b"]

/-- The kind of variables declared here, if a declaration starts. -/
def declaredKind? : Parser (Option VariableKind) := do
  match variableKind? (← current) with
  | some .blockScoped => if ← letDeclares then return some .blockScoped else return none
  | found => return found

/-- Whether a loop over keys or values goes on here. -/
def isLoopOver : Parser Bool := do return (← isWord "of") || (← isWord "in")

/-- One variable with its first value. Constants and patterns need a value,
except in loops over something and in descriptions of other code; the constants
of other loops need none. -/
def declarator (rules : Rules) (kind : VariableKind) (inLoop : Bool) : Parser Declarator := do
  let start ← offset
  if kind != .functionScoped && (← isWord "let") then unexpected
  let target ← rules.target
  if ← isTyped then
    let _ ← eatSymbol "!"
  let target := target.annotate (← typeAfterColon rules)
  if ← eatSymbol "=" then return .mk target (some (← rules.assignment))
  else
    unless (← read).isAmbient || (inLoop && (← isLoopOver)) do
      if kind = .constant && !inLoop then note start
      else
        match target with
        | .name .. => pure ()
        | .pattern .. => failAt start
    return .mk target none

/-- Variables divided by commas, each with the offset of its name. The keyword
ended at `keywordStop`. A comma before the semicolon is a mistake. -/
def declarators (rules : Rules) (kind : VariableKind) (inLoop : Bool) (keywordStop : Nat) :
    Parser (List (Nat × Declarator)) := do
  let step (found : List (Nat × Declarator) × Bool) :
      Parser (Option (List (Nat × Declarator) × Bool)) := do
    if !found.2 then return none
    else if ← isSymbol ";" then
      let cursor ← get
      note (if found.1.isEmpty then keywordStop else cursor.previousStart)
      return some (found.1, false)
    else
      let start ← offset
      let declared ← declarator rules kind inLoop
      return some ((start, declared) :: found.1, ← eatSymbol ",")
  let (declared, _) ← extend step ([], true)
  return declared.reverse

/-- Skip to the end of a statement after a mistake. -/
def skipStatement (rules : Rules) : Parser Unit := do
  let _ ← attempt rules.expression
  let _ ← collect do
    if ← eatStatementEnd then return none
    match (← current).token with
    | .invalid _ => return none
    | _ =>
        advance
        return some ()

/-- A declaration of variables. What does not belong to it is a mistake and is
skipped. -/
def variableStatement (rules : Rules) (kind : VariableKind) : Parser Part := do
  let keywordStop := (← current).stop
  advance
  let declared ← declarators rules kind false keywordStop
  unless ← eatStatementEnd do
    match (← current).token with
    | .invalid offset => note offset
    | _ => note (← offset)
    skipStatement rules
  return .node (.variableDeclaration kind (declared.map (·.2)))

/-! ## Functions and classes -/

def functionDeclaration (rules : Rules) (isAsync : Bool) : Parser Part := do
  let flags : FunctionFlags := ⟨isAsync, ← eatSymbol "*"⟩
  let name ← declaredName
  let (parameters, body) ← functionRest rules flags
  return .node (.functionDeclaration name flags parameters body)

def classDeclaration (rules : Rules) : Parser Part := do
  let name ← declaredName
  return .construct .classDeclaration (← classParts rules (some name))

/-! ## Loops and branches -/

/-- An expression in parentheses after a keyword. -/
def condition (rules : Rules) : Parser Part := do
  expectSymbol "("
  let test ← bracketed rules.expression
  expectSymbol ")"
  return .expr test

/-- A statement that is a part of another one. Declarations other than of
variables stand in lists of statements only, and so do constants. -/
def embeddedStatement (rules : Rules) : Parser Part := do
  let lexeme ← current
  let following ← next
  if lexeme.isWord "function" || lexeme.isWord "class" then note lexeme.start
  if lexeme.isWord "const" then unexpected
  if lexeme.isWord "let" && following.isIdentifier && !following.afterLineEnd then
    advance
    unexpected
  rules.statement

/-- A branch, which may be a function outside of strict code. -/
def branch (rules : Rules) : Parser Part := do
  if !(← read).isStrict && (← isWord "function") then rules.statement
  else embeddedStatement rules

def loopBody (rules : Rules) : Parser Part :=
  withReader (fun surroundings => { surroundings with canBreak := true, canContinue := true })
    (embeddedStatement rules)

/-- The rest of a loop over the keys or values of something. -/
def loopOver (rules : Rules) (left : Part) : Parser Part := do
  if ← eatWord "of" then
    let right ← bracketed rules.assignment
    expectSymbol ")"
    return .construct .forOfStatement [left, .expr right, ← loopBody rules]
  else
    expectWord "in"
    let right ← bracketed rules.expression
    expectSymbol ")"
    return .construct .forInStatement [left, .expr right, ← loopBody rules]

/-- The rest of a loop with a test and an update. -/
def countingLoop (rules : Rules) (first : List Part) : Parser Part := do
  expectSymbol ";"
  let optional (closing : String) : Parser (List Part) := do
    if ← isSymbol closing then return [] else return [.expr (← bracketed rules.expression)]
  let test ← optional ";"
  expectSymbol ";"
  let update ← optional ")"
  expectSymbol ")"
  return .construct .forStatement (first ++ test ++ update ++ [← loopBody rules])

/-- Read without `in` as an operator. -/
def withoutIn {α : Type} (parser : Parser α) : Parser α :=
  withReader (fun surroundings => { surroundings with allowsIn := false, expectsColon := false })
    parser

/-- Whether a declared variable has a type written after it. -/
def isAnnotated : Declarator → Bool
  | .mk (.name _ types) _ => !types.isEmpty
  | _ => false

/-- Check the variables of a loop over something: there is only one, without a type
and without a first value, which keys alone may have outside of strict code. -/
def checkLoopVariables (declared : List (Nat × Declarator)) : Parser Unit := do
  match declared with
  | [(start, .mk target initial)] =>
      let mayHaveValue := !(← read).isStrict && (← isWord "in")
      if initial.isSome && !mayHaveValue then note start
      if isAnnotated (.mk target initial) then note start
  | _ => (declared.drop 1).forM fun extra => note extra.1

/-- The head of a loop from its first part on, with its body. -/
def loopRest (rules : Rules) (isAwaited : Bool) : Parser Part := do
  match ← declaredKind? with
  | some kind =>
      let keywordStop := (← current).stop
      advance
      let declared ← withoutIn (declarators rules kind true keywordStop)
      let declaration := Part.node (.variableDeclaration kind (declared.map (·.2)))
      if ← isLoopOver then
        checkLoopVariables declared
        loopOver rules declaration
      else countingLoop rules [declaration]
  | none =>
      if ← isSymbol ";" then countingLoop rules []
      else
        let start ← offset
        let isAsyncOf := (← isWord "async") && (← next).isWord "of"
        let count := (← get).patternFaults.size
        let first ← withoutIn rules.expression
        if ← isLoopOver then
          let target ← assignedPattern rules start count first
          if isAsyncOf && !isAwaited then note start
          loopOver rules target
        else countingLoop rules [.expr first]

/-- A loop. Only the values of something can be waited for. -/
def forStatement (rules : Rules) : Parser Part := do
  advance
  let start ← offset
  let isAwaited ← eatWord "await"
  expectSymbol "("
  let loop ← loopRest rules isAwaited
  match loop with
  | .construct .forOfStatement _ => return loop
  | _ => if isAwaited then failAt start else return loop

def switchCase (rules : Rules) (hasDefault : Bool) : Parser (Part × Bool) := do
  let isDefault ← isWord "default"
  if !isDefault && !(← isWord "case") then unexpected
  advance
  if isDefault && hasDefault then unexpected
  let test ← if isDefault then pure [] else (do return [Part.expr (← bracketed rules.expression)])
  expectSymbol ":"
  let body ← collect do
    let ends := (← isSymbol "\x7d") || (← isWord "case") || (← isWord "default")
    if ends then return none else return some (← rules.statement)
  return (.construct .switchCase (test ++ body), hasDefault || isDefault)

def switchStatement (rules : Rules) : Parser Part := do
  advance
  let subject ← condition rules
  expectSymbol "\x7b"
  let step (found : List Part × Bool) : Parser (Option (List Part × Bool)) := do
    if ← isSymbol "\x7d" then return none
    else
      let (case, hasDefault) ← switchCase rules found.2
      return some (case :: found.1, hasDefault)
  let (cases, _) ← withReader (fun surroundings => { surroundings with canBreak := true })
    (extend step ([], false))
  expectSymbol "\x7d"
  return .construct .switchStatement (subject :: cases.reverse)

def ifStatement (rules : Rules) : Parser Part := do
  advance
  let test ← condition rules
  let first ← branch rules
  let second ← if ← eatWord "else" then (do return [← branch rules]) else pure []
  return .construct .ifStatement (test :: first :: second)

def whileStatement (rules : Rules) : Parser Part := do
  advance
  let test ← condition rules
  return .construct .whileStatement [test, ← loopBody rules]

/-- The test of this loop is visited before its body. -/
def doWhileStatement (rules : Rules) : Parser Part := do
  advance
  let body ← loopBody rules
  expectWord "while"
  let test ← condition rules
  let _ ← eatSymbol ";"
  return .construct .doWhileStatement [test, body]

/-! ## Jumps -/

def returnStatement (rules : Rules) : Parser Part := do
  let start ← offset
  advance
  let value ← if ← atStatementEnd then pure []
    else (do return [Part.expr (← bracketed rules.expression)])
  expectStatementEnd
  unless (← read).inFunction do note start
  return .construct .returnStatement value

def throwStatement (rules : Rules) : Parser Part := do
  advance
  if (← current).afterLineEnd then unexpected
  let value ← bracketed rules.expression
  expectStatementEnd
  return .construct .throwStatement [.expr value]

/-- A jump out of or to the start of a loop, with the label it may have. -/
def jumpStatement (isBreak : Bool) : Parser Part := do
  let surroundings ← read
  let start ← offset
  advance
  let label ← if ← atStatementEnd then pure none else (do return some (← identifier))
  expectStatementEnd
  let isKnown := label.all (surroundings.labels.contains ·)
  let canJump := if isBreak then surroundings.canBreak else surroundings.canContinue
  unless isKnown && canJump do note start
  let parts := (label.map fun name => Part.node (.identifier name)).toList
  return .construct (if isBreak then .breakStatement else .continueStatement) parts

def tryStatement (rules : Rules) : Parser Part := do
  advance
  let body ← block rules
  let handler ←
    if ← eatWord "catch" then
      (do
        let parameter ←
          if ← eatSymbol "(" then
            (do
              let target ← rules.target
              let annotated := target.annotate (← typeAfterColon rules)
              expectSymbol ")"
              return [annotated.part])
          else pure []
        return [Part.construct .catchClause (parameter ++ [← block rules])])
    else pure []
  let final ← if ← eatWord "finally" then (do return [← block rules]) else pure []
  if handler.isEmpty && final.isEmpty then note (← offset)
  return .construct .tryStatement (body :: (handler ++ final))

def withStatement (rules : Rules) : Parser Part := do
  noteStrict (← offset)
  advance
  let subject ← condition rules
  return .construct .withStatement [subject, ← embeddedStatement rules]

/-- What stands after a label. Functions there are plain ones outside of strict
code. -/
def labeledBody (rules : Rules) : Parser Part := do
  if ← isWord "function" then
    let start ← offset
    let isPlain := !(← read).isStrict && !(← next).isSymbol "*"
    let function ← rules.statement
    unless isPlain do note start
    return function
  else embeddedStatement rules

/-- A statement with a label, which no statement around it has. -/
def labeledStatement (rules : Rules) : Parser Part := do
  let start ← offset
  let isRepeated := ((← current).identifier?).any ((← read).labels.contains ·)
  let name ← identifier
  expectSymbol ":"
  let body ← withReader
    (fun surroundings =>
      { surroundings with labels := name :: surroundings.labels, canBreak := true })
    (labeledBody rules)
  if isRepeated then note start
  return .construct .labeledStatement [.node (.identifier name), body]

def expressionStatement (rules : Rules) : Parser Part := do
  let value ← bracketed rules.expression
  expectStatementEnd
  return .construct .expressionStatement [.expr value]

/-! ## Dispatch -/

/-- A statement that starts with a keyword, if the word is one. -/
def keywordStatement? (rules : Rules) (word : String) : Option (Parser Part) :=
  match word with
  | "if" => some (ifStatement rules)
  | "for" => some (forStatement rules)
  | "while" => some (whileStatement rules)
  | "do" => some (doWhileStatement rules)
  | "switch" => some (switchStatement rules)
  | "return" => some (returnStatement rules)
  | "throw" => some (throwStatement rules)
  | "break" => some (jumpStatement true)
  | "continue" => some (jumpStatement false)
  | "try" => some (tryStatement rules)
  | "with" => some (withStatement rules)
  | "debugger" => some do
      advance
      expectStatementEnd
      return .construct .debuggerStatement []
  | "function" => some do
      advance
      functionDeclaration rules false
  | "class" => some do
      advance
      classDeclaration rules
  | _ => none

/-- A statement of the untyped language. -/
def plainStatement (rules : Rules) : Parser Part := do
  let lexeme ← current
  match lexeme.token with
  | .punctuator "\x7b" => block rules
  | .punctuator ";" =>
      advance
      return .construct .emptyStatement []
  | .word word false =>
      match ← declaredKind? with
      | some kind => variableStatement rules kind
      | none =>
          match keywordStatement? rules word with
          | some statement => statement
          | none =>
              let following ← next
              if word = "async" && following.isWord "function" && !following.afterLineEnd then
                advance
                advance
                functionDeclaration rules true
              else if word = "import" && !following.isOneOf ["(", "."] then unexpected
              else if lexeme.isIdentifier && following.isSymbol ":" then labeledStatement rules
              else expressionStatement rules
  | .word _ true =>
      if lexeme.isIdentifier && (← next).isSymbol ":" then labeledStatement rules
      else expressionStatement rules
  | _ => expressionStatement rules

end DirectiveScan.Grammar
