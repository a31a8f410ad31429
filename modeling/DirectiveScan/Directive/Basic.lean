import DirectiveScan.Extract.Error
import DirectiveScan.Number.Shortest
import DirectiveScan.Query.Search

namespace DirectiveScan

/-! Registrations of directives: calls of a member named `directive`.

The scope and the template of a registration are looked for in the whole call,
not only in the object that its factory returns. Registrations that are chained
in one statement therefore see each other's entries. More than one scope entry
is an error rather than a guess. -/

/-- What a directive binds. -/
inductive Scope where
  /-- The bound names, in the order in which they are written. -/
  | bindings (names : List String)
  | isolate (flag : Bool)
deriving DecidableEq, Repr

/-- What one registration declares. -/
structure Declaration where
  name : String
  module : Option String
  scope : Option Scope
  templatePath : Option String
deriving DecidableEq, Repr

namespace Directive

/-- The member that registers a directive. -/
def registrationWord : String := "directive"

/-- The member that registers a module. -/
def moduleWord : String := "module"

/-- The key under which a scope is declared. -/
def scopeKey : String := "scope"

/-- The key under which a template is declared. -/
def templateUrlKey : String := "templateUrl"

/-- Whether a node is a registration. -/
def isRegistration (node : Node) : Bool :=
  node.kind = .callExpression && node.deepText? "callee.property.name" = some registrationWord

/-- The shape of what stands where a name should stand. -/
def foundShape : Option Field → String
  | some (.node node) => node.kind.tag
  | some (.unmodeled tag) => tag
  | some (.text _) => "Text"
  | some (.boolean _) => "Boolean"
  | some (.list _) => "List"
  | some .hole => "Null"
  | none => "no argument"

/-- The text of a field that is a string literal. -/
def stringText? : Option Field → Option String
  | some (.node (.string text)) => text
  | _ => none

/-- The first argument, which must be a string literal. -/
def name (call : Node) : Except ExtractError String :=
  let first := call.deepField? "arguments.0"
  match stringText? first with
  | some text => .ok text
  | none => .error (.unsupportedNameForm (foundShape first))

/-- The module that a registration is chained to, if it is chained directly to a
module call that names it by a string. -/
def module? (call : Node) : Option String :=
  if call.deepText? "callee.object.callee.property.name" = some moduleWord then
    call.deepText? "callee.object.arguments.0.value"
  else none

abbrev KeyValue := PropertyKey × Expr

def keyValue? : Node → Option KeyValue
  | .property key value => some (key, value)
  | _ => none

/-- The entries anywhere in a call whose key is written as the given word. -/
def entriesNamed (call : Node) (key : String) : List KeyValue :=
  ((Start.node call).findWhere fun visit =>
    visit.node.kind = .objectProperty && visit.node.deepText? "key.name" = some key).filterMap
    keyValue?

/-- The name that an entry of a scope binds. -/
def bindingName : Entry → Except ExtractError String
  | .property (.name word) _ => .ok word
  | .property (.string (some text)) _ => .ok text
  | .property (.string none) _ => .error (.unsupportedScopeForm "StringLiteral")
  | .property (.number value) _ => .ok value.text
  | .property (.computed _) _ => .error (.unsupportedScopeForm "ComputedPropertyName")
  | .property .bigInt _ => .error (.unsupportedScopeForm "BigIntLiteral")
  | .shorthand word => .ok word
  | other => .error (.unsupportedScopeForm other.shape)

/-- The scope that a value declares. -/
def scopeOf : Expr → Except ExtractError Scope
  | .node (.object entries) => (entries.mapM bindingName).map .bindings
  | .node (.boolean flag) => .ok (.isolate flag)
  | other => .error (.unsupportedScopeForm other.shape)

/-- The scope that is declared by the entries under its key. -/
def scopeAmong : List KeyValue → Except ExtractError (Option Scope)
  | [] => .ok none
  | [entry] => (scopeOf entry.2).map some
  | entries => .error (.ambiguousScopeDeclaration entries.length)

/-- The template that is declared by the entries under its key: the first one. -/
def templateUrlAmong : List KeyValue → Except ExtractError (Option String)
  | [] => .ok none
  | entry :: _ =>
      match entry.2 with
      | .node (.string (some url)) => .ok (some url)
      | other => .error (.unsupportedTemplateUrlForm other.shape)

/-- The scope of a registration, if it declares one. -/
def scope (call : Node) : Except ExtractError (Option Scope) :=
  scopeAmong (entriesNamed call scopeKey)

/-- The template of a registration, if it declares one. -/
def templateUrl (call : Node) : Except ExtractError (Option String) :=
  templateUrlAmong (entriesNamed call templateUrlKey)

/-- Read a registration. A template in an unsupported form counts as none. -/
def read (call : Node) : Except ExtractError Declaration := do
  let name ← name call
  let scope ← scope call
  return { name, module := module? call, scope, templatePath := (templateUrl call).toOption.join }

/-- The registrations below a start, in the order of the walk. -/
def registrations (start : Start) : List Node :=
  start.findWhere fun visit => isRegistration visit.node

/-! ## Reading in place

Registrations are read where they are met, without copies of them. -/

namespace InPlace

def isRegistration (view : View) : Bool :=
  view.kind = .callExpression && view.deepText? "callee.property.name" = some registrationWord

def foundShape : Option ViewField → String
  | some (.node view) => view.kind.tag
  | some (.unmodeled tag) => tag
  | some (.text _) => "Text"
  | some (.boolean _) => "Boolean"
  | some (.list _) => "List"
  | some .hole => "Null"
  | none => "no argument"

def stringText? : Option ViewField → Option String
  | some (.node (.string text)) => text
  | _ => none

def name (call : Call) : Except ExtractError String :=
  let first := (View.call call).deepField? "arguments.0"
  match stringText? first with
  | some text => .ok text
  | none => .error (.unsupportedNameForm (foundShape first))

def module? (call : Call) : Option String :=
  if (View.call call).deepText? "callee.object.callee.property.name" = some moduleWord then
    (View.call call).deepText? "callee.object.arguments.0.value"
  else none

def entriesNamed (call : Call) (key : String) : List KeyValue :=
  ((Root.call call).findWhere fun sighting =>
    sighting.view.kind = .objectProperty && sighting.view.deepText? "key.name" = some key).filterMap
    keyValue?

def read (call : Call) : Except ExtractError Declaration := do
  let name ← name call
  let scope ← scopeAmong (entriesNamed call scopeKey)
  let templateUrl := templateUrlAmong (entriesNamed call templateUrlKey)
  return { name, module := module? call, scope, templatePath := templateUrl.toOption.join }

end InPlace

/-- What is read where a node is offered: nothing, unless it is a registration. -/
def readSighting? (sighting : Sighting) : Option (Except ExtractError Declaration) :=
  match sighting.view with
  | .call call => if InPlace.isRegistration (.call call) then some (InPlace.read call) else none
  | _ => none

/-- Read every registration that a walk offers. -/
def readIn (root : Root) : List (Except ExtractError Declaration) :=
  root.walk.filterMap readSighting?

/-- Read every registration below a start. -/
def readAll (start : Start) : List (Except ExtractError Declaration) := readIn start.root

end Directive

end DirectiveScan
