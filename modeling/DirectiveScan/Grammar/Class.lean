import DirectiveScan.Grammar.Function

namespace DirectiveScan.Grammar

open DirectiveScan.Parser

/-! Classes. A class is visited as its name, its members, what it extends, its
type parameters, the type arguments of what it extends and its interfaces. -/

/-- Words that may stand before a member. -/
def memberModifiers : List String :=
  ["declare", "public", "private", "protected", "static", "override", "abstract", "readonly",
   "accessor"]

/-- Whether the word here is a modifier of what follows rather than a name. -/
def isModifier : Parser Bool := do
  let lexeme ← current
  let following ← next
  let continues :=
    match following.token with
    | .word .. | .privateName _ | .string _ | .number _ | .bigInt => true
    | .punctuator symbol => ["[", "*"].contains symbol
    | _ => false
  if lexeme.isWord "static" then return continues
  else
    return (← isTyped) && memberModifiers.any lexeme.isWord && continues && !following.afterLineEnd

/-- The key of a class member: where it stands, its parts, and its name, if that
is written as a word or string. -/
structure MemberKey where
  start : Nat
  parts : List Part
  name : Option String

def memberName (rules : Rules) : Parser MemberKey := do
  let start ← offset
  match (← current).token with
  | .privateName name =>
      if name = "constructor" then note start
      advance
      return ⟨start, [], none⟩
  | _ =>
      let key ← propertyKey rules
      let name :=
        match key with
        | .name word => some word
        | .string text => text
        | _ => none
      return ⟨start, key.parts, name⟩

namespace MemberKey

def isConstructor (key : MemberKey) : Bool := key.name = some "constructor"

end MemberKey

/-- A class member, and whether it is a constructor with a body. -/
structure ClassMember where
  part : Part
  isConstructor : Bool

/-- A field after its key: value before type in the order of visits. -/
def classField (rules : Rules) (key : MemberKey) : Parser ClassMember := do
  if key.isConstructor then failAt key.start
  if ← isTyped then
    let _ ← eatSymbol "!"
  let types ← typeAfterColon rules
  let value ←
    if ← eatSymbol "=" then
      (do return [Part.expr (← withReader (Surroundings.enter ⟨false, false⟩) rules.assignment)])
    else pure []
  expectStatementEnd
  return ⟨.construct .field (key.parts ++ value ++ types), false⟩

/-- A getter or setter after its key. The word before the key stands at `start`. -/
def classAccessor (rules : Rules) (key : MemberKey) (isGetter : Bool) (start : Nat) :
    Parser ClassMember := do
  let first := (← next).start
  let (parameters, body) ← functionRest rules ⟨false, false⟩
  checkAccessor isGetter start first parameters
  return ⟨.construct .method (key.parts ++ parameters ++ body), false⟩

/-- A method after its key. -/
def classMethod (rules : Rules) (key : MemberKey) (flags : FunctionFlags)
    (isConstructor : Bool) : Parser ClassMember := do
  let hasBody (body : List Part) :=
    match body with
    | .construct .block _ :: _ => true
    | _ => false
  let (parameters, body) ← functionRest rules flags
  return ⟨.construct .method (key.parts ++ parameters ++ body), isConstructor && hasBody body⟩

/-- Whether the word here is followed by the key of a member. -/
def precedesKey : Parser Bool := do
  match (← next).token with
  | .word .. | .privateName _ | .string _ | .number _ | .bigInt => return true
  | .punctuator symbol => return symbol = "["
  | _ => return false

/-- A member after its modifiers. A constructor is no accessor, waits for nothing
and generates nothing. -/
def classMemberRest (rules : Rules) (isStatic : Bool) : Parser ClassMember := do
  if (← isTyped) && (← isSymbol "[") && (← isIndexSignature) then
    let signature ← indexSignature rules
    expectStatementEnd
    return ⟨signature, false⟩
  else
    let start ← offset
    let isGetter ← isWord "get"
    let isAccessor := (isGetter || (← isWord "set")) && (← precedesKey)
    let isAsync := (← isWord "async") && !(← next).afterLineEnd &&
      ((← precedesKey) || (← next).isSymbol "*")
    if isAccessor || isAsync then advance
    let isGenerator ← eatSymbol "*"
    let key ← memberName rules
    let isConstructor := key.isConstructor && !isStatic
    if isStatic && key.name = some "prototype" then note key.start
    if ← isTyped then
      let _ ← eatSymbol "?"
    let isMethod := (← isSymbol "(") || ((← isTyped) && (← isSymbol "<"))
    if isAccessor then
      if isConstructor then note start
      classAccessor rules key isGetter start
    else if isMethod || isAsync || isGenerator then
      if isConstructor && (isAsync || isGenerator) then note key.start
      classMethod rules key ⟨isAsync, isGenerator⟩ isConstructor
    else classField rules key

def classMember (rules : Rules) : Parser ClassMember := do
  if (← isWord "static") && (← next).isSymbol "\x7b" then
    advance
    let enter (surroundings : Surroundings) : Surroundings :=
      { Surroundings.enter ⟨false, false⟩ surroundings with inFunction := surroundings.inFunction }
    let body ← withReader enter (block rules)
    return ⟨.construct .staticBlock [body], false⟩
  else
    let modifiers ← collect do
      if ← isModifier then return some (← anyWord) else return none
    let ambient := modifiers.contains "declare"
    withReader
      (fun surroundings => { surroundings with isAmbient := surroundings.isAmbient || ambient })
      (classMemberRest rules (modifiers.contains "static"))

/-- Members up to the closing brace. A second constructor is a mistake. -/
def classMembers (rules : Rules) : Parser (List Part) := do
  expectSymbol "\x7b"
  let step (found : List Part × Bool) : Parser (Option (List Part × Bool)) := do
    if ← isSymbol "\x7d" then return none
    else if ← eatSymbol ";" then return some found
    else
      let start ← offset
      let member ← classMember rules
      if member.isConstructor && found.2 then note start
      return some (member.part :: found.1, found.2 || member.isConstructor)
  let (members, _) ← extend step ([], false)
  expectSymbol "\x7d"
  return members.reverse

/-- An interface that a class or interface names: a chain of members with its
type arguments. -/
def heritage (rules : Rules) : Parser (List Part) := do
  let (first, rest) ← dottedWords
  let chain := rest.foldl (fun object name => .node (.member object (.name name)))
    (Expr.node (.identifier first))
  return .expr chain :: (← optionalTypeArguments rules)

/-- Interfaces divided by commas. -/
def heritageList (rules : Rules) : Parser (List Part) := do
  let first ← heritage rules
  let rest ← collect do
    if ← eatSymbol "," then return some (← heritage rules) else return none
  return first ++ rest.flatten

/-- What a class extends, with type arguments apart. -/
def superclass (expr : Expr) : List Part × List Part :=
  match expr with
  | .other .other [.expr inner, .construct .typeArguments types] =>
      ([.expr inner], [.construct .typeArguments types])
  | _ => ([.expr expr], [])

/-- A class after its name, in the order of visits. -/
def classRest (rules : Rules) : Parser (List Part) :=
  let enter (surroundings : Surroundings) : Surroundings :=
    { surroundings with isStrict := true, allowsNewTarget := true }
  withReader enter do
    let typeParameters ← optionalTypeParameters rules
    let (parent, parentArguments) ←
      if ← eatWord "extends" then (do return superclass (← rules.apply .superclass))
      else pure ([], [])
    let interfaces ←
      if ← eatTypedWord "implements" then heritageList rules else pure []
    let members ← classMembers rules
    return members ++ parent ++ typeParameters ++ parentArguments ++ interfaces

def className : Parser (Option String) := do
  if (← isIdentifier) && !((← isTyped) && (← isWord "implements")) then return some (← declaredName)
  else return none

/-- A class after its keyword. -/
def classParts (rules : Rules) (name : Option String) : Parser (List Part) := do
  let rest ← classRest rules
  return (name.map fun name => Part.node (.identifier name)).toList ++ rest

end DirectiveScan.Grammar
