import DirectiveScan.Query.Field

namespace DirectiveScan

/-! Nodes as they are looked at where they stand.

A view tells a variable from the name of a property, which are both identifiers. Searches
return owned copies, which do not keep this difference: an identifier of a copy is a name. -/

/-- A call, which starts at an offset of the source text. -/
structure Call where
  start : Nat
  callee : Callee
  arguments : List Expr
  typeArguments : List Part

def Call.node (call : Call) : Node :=
  .call call.start call.callee call.arguments call.typeArguments

/-- A node that is looked at. -/
inductive View where
  | call (call : Call)
  | member (object : Expr) (property : MemberName)
  | property (key : PropertyKey) (value : Expr)
  | object (entries : List Entry)
  | array (elements : List Element)
  /-- A variable, or anything else that is declared or used under a name. -/
  | ident (name : String)
  /-- The name of a property. -/
  | name (word : String)
  | string (text : Option String)
  | boolean (value : Bool)
  | function (name : Option String) (flags : FunctionFlags) (parameters body : List Part)
  | arrow (isAsync : Bool) (parameters body : List Part)
  | functionDeclaration (name : String) (flags : FunctionFlags) (parameters body : List Part)
  | variableDeclaration (kind : VariableKind) (declarators : List Declarator)
  | variableDeclarator (declarator : Declarator)

namespace View

def kind : View → NodeKind
  | call _ => .callExpression
  | member .. => .memberExpression
  | property .. => .objectProperty
  | object _ => .objectExpression
  | array _ => .arrayExpression
  | ident _ | name _ => .identifier
  | string _ => .stringLiteral
  | boolean _ => .booleanLiteral
  | function .. => .functionExpression
  | arrow .. => .arrowFunctionExpression
  | functionDeclaration .. => .functionDeclaration
  | variableDeclaration .. => .variableDeclaration
  | variableDeclarator _ => .variableDeclarator

/-- The owned copy of a node. -/
def copy : View → Node
  | call found => found.node
  | member owner last => .member owner last
  | property key value => .property key value
  | object entries => .object entries
  | array elements => .array elements
  | ident word => .identifier word
  | name word => .identifier word
  | string text => .string text
  | boolean value => .boolean value
  | function word flags parameters body => .function word flags parameters body
  | arrow isAsync parameters body => .arrow isAsync parameters body
  | functionDeclaration word flags parameters body =>
      .functionDeclaration word flags parameters body
  | variableDeclaration kind declarators => .variableDeclaration kind declarators
  | variableDeclarator declarator => .variableDeclarator declarator

/-- The view of a node of a program, whose identifiers are variables. -/
def ofNode : Node → View
  | .call start callee arguments typeArguments => call ⟨start, callee, arguments, typeArguments⟩
  | .member owner last => member owner last
  | .property key value => property key value
  | .object entries => object entries
  | .array elements => array elements
  | .identifier word => ident word
  | .string text => string text
  | .boolean value => boolean value
  | .function word flags parameters body => function word flags parameters body
  | .arrow isAsync parameters body => arrow isAsync parameters body
  | .functionDeclaration word flags parameters body =>
      functionDeclaration word flags parameters body
  | .variableDeclaration kind declarators => variableDeclaration kind declarators
  | .variableDeclarator declarator => variableDeclarator declarator

end View

/-- The view of an owned copy, whose identifiers are names. -/
def Node.asView : Node → View
  | .identifier word => .name word
  | found => .ofNode found

/-! ## Fields -/

/-- What is found at the end of a path of fields, where it stands. -/
inductive ViewField where
  | node (view : View)
  | text (text : String)
  | boolean (value : Bool)
  | list (items : List ViewField)
  /-- A hole in an array literal. -/
  | hole
  /-- Something that is no node, of which only the tag is known. -/
  | unmodeled (tag : String)

namespace ViewField

def ofExpr : Expr → ViewField
  | .node found => .node (.ofNode found)
  | expr => .unmodeled expr.shape

def ofKey : PropertyKey → ViewField
  | .name word => .node (.name word)
  | .string literal => .node (.string literal)
  | .number _ => .unmodeled "NumericLiteral"
  | .bigInt => .unmodeled "BigIntLiteral"
  | .computed key => ofExpr key

def ofCallee : Callee → ViewField
  | .expr callee => ofExpr callee
  | .superClass => .unmodeled "Super"
  | .moduleImport => .unmodeled "Import"

def ofMemberName : MemberName → ViewField
  | .name word => .node (.name word)
  | .privateName _ => .unmodeled "PrivateName"
  | .computed property => ofExpr property

/-- Only entries written with a key and a value are nodes here. -/
def ofEntry : Entry → ViewField
  | .property key value => .node (.property key value)
  | entry => .unmodeled entry.shape

def ofElement : Element → ViewField
  | .hole => .hole
  | .value value => ofExpr value
  | .spread value => ofExpr value

def ofTarget : Target → ViewField
  | .name word _ => .node (.ident word)
  | .pattern shape _ => .unmodeled shape.tag

def text? : ViewField → Option String
  | .text found => some found
  | _ => none

mutual

/-- What is found, with owned copies of its nodes. -/
def copy : ViewField → Field
  | .node view => .node view.copy
  | .text found => .text found
  | .boolean value => .boolean value
  | .list items => .list (copyAll items)
  | .hole => .hole
  | .unmodeled tag => .unmodeled tag

def copyAll : List ViewField → List Field
  | [] => []
  | item :: rest => item.copy :: copyAll rest

end

end ViewField

namespace View

/-- The fields that only some kinds of nodes have. -/
def ownField? (view : View) (field : String) : Option ViewField :=
  match view with
  | .call found =>
      match field with
      | "callee" => some (.ofCallee found.callee)
      | "arguments" => some (.list (found.arguments.map .ofExpr))
      | _ => none
  | .member owner last =>
      match field with
      | "object" => some (.ofExpr owner)
      | "property" => some (.ofMemberName last)
      | "computed" => some (.boolean last.isComputed)
      | _ => none
  | .property key value =>
      match field with
      | "key" => some (.ofKey key)
      | "value" => some (.ofExpr value)
      | _ => none
  | .object entries =>
      match field with
      | "properties" => some (.list (entries.map .ofEntry))
      | _ => none
  | .array elements =>
      match field with
      | "elements" => some (.list (elements.map .ofElement))
      | _ => none
  | .ident word =>
      match field with
      | "name" => some (.text word)
      | _ => none
  | .name word =>
      match field with
      | "name" => some (.text word)
      | _ => none
  | .string literal =>
      match field with
      | "value" => literal.map .text
      | _ => none
  | .boolean value =>
      match field with
      | "value" => some (.boolean value)
      | _ => none
  | .function word flags _ _ =>
      match field with
      | "id" => word.map fun word => .node (.ident word)
      | "async" => some (.boolean flags.isAsync)
      | "generator" => some (.boolean flags.isGenerator)
      | _ => none
  | .arrow isAsync _ _ =>
      match field with
      | "async" => some (.boolean isAsync)
      | _ => none
  | .functionDeclaration word flags _ _ =>
      match field with
      | "id" => some (.node (.ident word))
      | "async" => some (.boolean flags.isAsync)
      | "generator" => some (.boolean flags.isGenerator)
      | _ => none
  | .variableDeclaration kind declarators =>
      match field with
      | "kind" => some (.text kind.text)
      | "declarations" =>
          some (.list (declarators.map fun declarator => .node (.variableDeclarator declarator)))
      | _ => none
  | .variableDeclarator (.mk target initial) =>
      match field with
      | "id" => some (.ofTarget target)
      | "init" => initial.map .ofExpr
      | _ => none

/-- One field of a node. Every node has its tag as `type`. -/
def field? (view : View) (name : String) : Option ViewField :=
  if name = "type" then some (.text view.kind.tag) else view.ownField? name

end View

/-- Follow one segment of a path. -/
def ViewField.step? : ViewField → String → Option ViewField
  | .node view, segment => view.field? segment
  | .list items, segment => (listIndex? segment).bind (items[·]?)
  | .unmodeled tag, segment => if segment = "type" then some (.text tag) else none
  | .text _, _ | .boolean _, _ | .hole, _ => none

namespace View

/-- Follow a path of names divided by points. -/
def deepField? (view : View) (path : String) : Option ViewField :=
  (Text.split '.' path).foldlM ViewField.step? (.node view)

/-- The text at the end of a path. -/
def deepText? (view : View) (path : String) : Option String :=
  (view.deepField? path).bind ViewField.text?

end View

end DirectiveScan
