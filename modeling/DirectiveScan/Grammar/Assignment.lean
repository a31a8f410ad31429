import DirectiveScan.Grammar.Expression

namespace DirectiveScan.Grammar

open DirectiveScan.Parser

/-! Arrow functions, assignments and lists divided by commas. Both arrow functions
and assignments may start with what looks like a value and turns out to be a
pattern. -/

/-! ## Arrow functions -/

def nameArrow (rules : Rules) (isAsync : Bool) : Parser Expr := do
  let name ← declaredName
  expectSymbol "=>"
  arrowFunction rules isAsync [.construct .parameter [.node (.identifier name)]] [] []

/-- Parameters before an arrow, with type parameters if the dialect has them. -/
def arrowStart (rules : Rules) (isAsync : Bool) :
    Parser (List Part × List Part × List Part) := do
  let typeParameters ← optionalTypeParameters rules
  let (parameters, result) ← arrowHead rules isAsync
  return (parameters, typeParameters, result)

/-- An arrow function, if the text here starts one. -/
def arrow? (rules : Rules) (isAsync : Bool) : Parser (Option Expr) := do
  match ← attempt (arrowStart rules isAsync) with
  | none => return none
  | some (parameters, typeParameters, result) =>
      return some (← arrowFunction rules isAsync parameters typeParameters result)

/-- An arrow function after the word `async`, if the text starts one. -/
def asyncArrow? (rules : Rules) : Parser (Option Expr) := do
  let following ← next
  if following.afterLineEnd then return none
  else if following.isSymbol "(" || ((← isTyped) && following.isSymbol "<") then
    let started ← attempt do
      advance
      arrowStart rules true
    match started with
    | none => return none
    | some (parameters, typeParameters, result) =>
        return some (← arrowFunction rules true parameters typeParameters result)
  else if following.isIdentifier then
    let isArrow ← lookahead do
      advance
      return (← next).isSymbol "=>"
    if isArrow then
      advance
      return some (← nameArrow rules true)
    else return none
  else return none

/-- An arrow function, if one starts here. -/
def startsArrow? (rules : Rules) : Parser (Option Expr) := do
  let lexeme ← current
  let dialect := (← read).dialect
  match lexeme.token with
  | .punctuator "(" => arrow? rules false
  | .punctuator "<" =>
      if dialect.typed && !dialect.markup then arrow? rules false else return none
  | .word text escaped =>
      let following ← next
      if following.isSymbol "=>" && !following.afterLineEnd && lexeme.isIdentifier then
        return some (← nameArrow rules false)
      else if text = "async" && !escaped then asyncArrow? rules
      else return none
  | _ => return none

/-! ## Values that are no patterns -/

inductive PatternUse where
  /-- Names are declared. -/
  | declare
  /-- Names and members get new values. -/
  | assign
deriving DecidableEq, Repr

/-- Whether an expression can be an element of a pattern. Literals are looked at
by themselves. -/
def PatternUse.admits (use : PatternUse) : Expr → Bool
  | .node (.identifier _) | .node (.object _) | .node (.array _) => true
  | .other .assignment _ => true
  | expr => use = .assign && expr.isAssignable

/-- Whether an expression is an array or object literal. -/
def isListLiteral : Expr → Bool
  | .node (.object _) | .node (.array _) => true
  | _ => false

/-- Read an element again, of which `literal` reads array and object literals, and
note it if no pattern admits it. -/
def noteMisfit (rules : Rules) (use : PatternUse) (literal : Parser Unit) : Parser Unit := do
  let start ← offset
  match ← peek rules.assignment with
  | none => unexpected
  | some expr =>
      if isListLiteral expr then literal
      else
        unless use.admits expr do note start
        let _ ← rules.assignment

/-- Read an element that takes all that remains again, after its dots. It is a
mistake if it has a default or if something follows it. -/
def noteRestMisfit (rules : Rules) (use : PatternUse) (literal : Parser Unit) (closing : String)
    (start : Nat) : Parser Unit := do
  match ← peek rules.assignment with
  | none => unexpected
  | some expr =>
      if expr.isAssignment then note start
      noteMisfit rules use literal
      checkLast closing start

/-- Read an entry of an object literal again. Methods are never part of a
pattern. -/
def noteEntryMisfit (rules : Rules) (use : PatternUse) (literal : Parser Unit) : Parser Unit := do
  let start ← offset
  match ← peek (objectEntry rules) with
  | none => unexpected
  | some (.method ..) => failAt start
  | some (.spread value) =>
      if use = .declare && isListLiteral value then note start
      advance
      noteRestMisfit rules use literal "\x7d" start
  | some (.property ..) =>
      let _ ← propertyKey rules
      expectSymbol ":"
      noteMisfit rules use literal
  | some _ =>
      let _ ← objectEntry rules

/-- Read an element of an array literal again. -/
def noteElementMisfit (rules : Rules) (use : PatternUse) (literal : Parser Unit)
    (closing : String) : Parser Unit := do
  let start ← offset
  if ← isSymbol "," then pure ()
  else if ← eatSymbol "..." then noteRestMisfit rules use literal closing start
  else noteMisfit rules use literal

/-- Read an array or object literal again and note what no pattern admits. The
number bounds how deep literals nest. -/
def noteLiteralMisfits (rules : Rules) (use : PatternUse) : Nat → Parser Unit
  | 0 => unexpected
  | depth + 1 => do
      let literal := noteLiteralMisfits rules use depth
      if ← eatSymbol "[" then
        let _ ← bracketed (commaList (noteElementMisfit rules use literal "]") "]")
      else
        expectSymbol "\x7b"
        let _ ← bracketed (commaList (noteEntryMisfit rules use literal) "\x7d")

/-- Note what no pattern admits in the literal that starts at an offset; then go
on reading where the parser was. -/
def noteMisfitsFrom (rules : Rules) (start : Nat) : Parser Unit := do
  let before ← get
  resumeAt start
  noteLiteralMisfits rules .assign ((← read).text.size + 1)
  modify fun after => { before with faults := after.faults }
  if (← get).faults.size = before.faults.size then note start

/-- Read parentheses again as parameters of an arrow function, and note those that
are none. -/
def noteParameterMisfits (rules : Rules) : Parser Unit := do
  let literal := noteLiteralMisfits rules .declare ((← read).text.size + 1)
  expectSymbol "("
  let _ ← bracketed (commaList (noteElementMisfit rules .declare literal ")") ")")

/-- Whether what was read before an arrow looks like parameters in parentheses,
and whether the word `async` stands before them. -/
def parameterLike? : Expr → Option Bool
  | .wrapped .parentheses _ _ => some false
  | .node (.call _ (.expr (.node (.identifier "async"))) _ _) => some true
  | _ => none

/-- An arrow function with mistakes in its parameters. What was read before the
arrow started at `start`. -/
def misfitArrow (rules : Rules) (start : Nat) (isAsync : Bool) : Parser Expr := do
  let count := (← get).faults.size
  resumeAt start
  if isAsync then advance
  noteParameterMisfits rules
  if (← get).faults.size = count then note start
  expectSymbol "=>"
  arrowFunction rules isAsync [] [] []

/-- A value handed out by a generator. -/
def yieldExpression (rules : Rules) : Parser Expr := do
  advance
  let lexeme ← current
  let stops := lexeme.afterLineEnd || lexeme.isOneOf [")", "]", "\x7d", ",", ";", ":"] ||
    lexeme.isWord "in" || lexeme.isWord "of" || (← isEnd)
  if stops then return .other .yield []
  else
    let _ ← eatSymbol "*"
    return .other .yield [.expr (← rules.assignment)]

/-! ## Assignments -/

def assignmentOperators : List String :=
  ["=", "+=", "-=", "*=", "/=", "%=", "**=", "<<=", ">>=", ">>>=", "&=", "|=", "^=", "&&=", "||=",
   "??="]

/-- Forget the entries that are mistakes outside of patterns, back to a count. -/
def forgetPatternFaults (count : Nat) : Parser Unit :=
  modify fun cursor => { cursor with patternFaults := cursor.patternFaults.take count }

/-- Read the left side of a plain assignment as a pattern. The expression started
at `start`, when there were `count` entries that only patterns may hold. -/
def assignedPattern (rules : Rules) (start count : Nat) (left : Expr) : Parser Part := do
  if isListLiteral left then
    forgetPatternFaults count
    match left.pattern? with
    | some pattern => return pattern
    | none =>
        noteMisfitsFrom rules start
        return .expr left
  else
    checkAssignable start left
    return .expr left

/-- An expression that may be assigned to. -/
def assignable (rules : Rules) : Parser Expr := do
  let start ← offset
  let count := (← get).patternFaults.size
  let left ← conditional rules
  if ← isSymbol "=" then
    let pattern ← assignedPattern rules start count left
    advance
    return .other .assignment [pattern, .expr (← rules.assignment)]
  else if ← isOneOf assignmentOperators then
    checkAssignable start left
    advance
    return .other .assignment [.expr left, .expr (← rules.assignment)]
  else if (← isSymbol "=>") && !(← current).afterLineEnd then
    match parameterLike? left with
    | some isAsync => misfitArrow rules start isAsync
    | none => unexpected
  else return left

/-- An expression without commas. -/
def assignment (rules : Rules) : Parser Expr := do
  let surroundings ← read
  if surroundings.isGenerator && (← isWord "yield") then yieldExpression rules
  else
    match ← startsArrow? rules with
    | some arrow => return arrow
    | none =>
        let dialect := surroundings.dialect
        if dialect.typed && dialect.markup && (← isSymbol "<") then
          match ← attempt (assignable rules) with
          | some expr => return expr
          | none =>
              match ← arrow? rules false with
              | some arrow => return arrow
              | none => assignable rules
        else assignable rules

/-- Expressions divided by commas. -/
def expression (rules : Rules) : Parser Expr := do
  let first ← rules.assignment
  let rest ← collect do
    if ← eatSymbol "," then return some (← rules.assignment) else return none
  if rest.isEmpty then return first
  else return .other .sequence ((first :: rest).map Part.expr)

end DirectiveScan.Grammar
