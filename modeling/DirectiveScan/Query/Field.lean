import DirectiveScan.Query.Role
import DirectiveScan.Text.Split

namespace DirectiveScan

/-! Reading the fields of nodes by name, and following paths of names. -/

/-- What is found at the end of a path. -/
inductive Field where
  | node (node : Node)
  | text (text : String)
  | boolean (value : Bool)
  | list (items : List Field)
  /-- A hole in an array literal. -/
  | hole
  /-- Something that is no node, of which only the tag is known. -/
  | unmodeled (tag : String)

namespace Field

def ofExpr : Expr → Field
  | .node found => .node found
  | expr => .unmodeled expr.shape

def ofKey : PropertyKey → Field
  | .name word => .node (.identifier word)
  | .string literal => .node (.string literal)
  | .number _ => .unmodeled "NumericLiteral"
  | .bigInt => .unmodeled "BigIntLiteral"
  | .computed key => ofExpr key

def ofCallee : Callee → Field
  | .expr callee => ofExpr callee
  | .superClass => .unmodeled "Super"
  | .moduleImport => .unmodeled "Import"

def ofMemberName : MemberName → Field
  | .name word => .node (.identifier word)
  | .privateName _ => .unmodeled "PrivateName"
  | .computed property => ofExpr property

/-- Only entries written with a key and a value are nodes here. -/
def ofEntry : Entry → Field
  | .property key value => .node (.property key value)
  | entry => .unmodeled entry.shape

def ofElement : Element → Field
  | .hole => .hole
  | .value value => ofExpr value
  | .spread value => ofExpr value

def ofTarget : Target → Field
  | .name word _ => .node (.identifier word)
  | .pattern shape _ => .unmodeled shape.tag

def text? : Field → Option String
  | .text found => some found
  | _ => none

def node? : Field → Option Node
  | .node found => some found
  | _ => none

/-- Whether a field is a part of the tree rather than plain data. -/
def isTreeNode : Field → Bool
  | .node _ | .unmodeled _ => true
  | _ => false

end Field

namespace Node

/-- The fields that only some kinds of nodes have. -/
def ownField? (node : Node) (field : String) : Option Field :=
  match node with
  | .call _ callee arguments _ =>
      match field with
      | "callee" => some (.ofCallee callee)
      | "arguments" => some (.list (arguments.map .ofExpr))
      | _ => none
  | .member owner last =>
      match field with
      | "object" => some (.ofExpr owner)
      | "property" => some (.ofMemberName last)
      | "computed" => some (.boolean last.isComputed)
      | _ => none
  | .property key value =>
      match field with
      | "key" => some (.ofKey key)
      | "value" => some (.ofExpr value)
      | _ => none
  | .object entries =>
      match field with
      | "properties" => some (.list (entries.map .ofEntry))
      | _ => none
  | .array elements =>
      match field with
      | "elements" => some (.list (elements.map .ofElement))
      | _ => none
  | .identifier word =>
      match field with
      | "name" => some (.text word)
      | _ => none
  | .string literal =>
      match field with
      | "value" => literal.map .text
      | _ => none
  | .boolean value =>
      match field with
      | "value" => some (.boolean value)
      | _ => none
  | .function word flags _ _ =>
      match field with
      | "id" => word.map fun word => .node (.identifier word)
      | "async" => some (.boolean flags.isAsync)
      | "generator" => some (.boolean flags.isGenerator)
      | _ => none
  | .arrow isAsync _ _ =>
      match field with
      | "async" => some (.boolean isAsync)
      | _ => none
  | .functionDeclaration word flags _ _ =>
      match field with
      | "id" => some (.node (.identifier word))
      | "async" => some (.boolean flags.isAsync)
      | "generator" => some (.boolean flags.isGenerator)
      | _ => none
  | .variableDeclaration kind declarators =>
      match field with
      | "kind" => some (.text kind.text)
      | "declarations" =>
          some (.list (declarators.map fun declarator => .node (.variableDeclarator declarator)))
      | _ => none
  | .variableDeclarator (.mk target initial) =>
      match field with
      | "id" => some (.ofTarget target)
      | "init" => initial.map .ofExpr
      | _ => none

/-- One field of a node. Every node has its tag as `type`. -/
def field? (node : Node) (name : String) : Option Field :=
  if name = "type" then some (.text node.kind.tag) else node.ownField? name

end Node

/-! ## Paths -/

/-- Indices are written in decimal digits, with a plus sign if one likes, and
must fit a machine word of 64 bits. -/
def listIndex? (segment : String) : Option Nat :=
  let digits :=
    match segment.toList with
    | '+' :: rest => rest
    | all => all
  if digits.isEmpty || !digits.all Char.isDigit then none
  else
    let index := digits.foldl (fun total digit => total * 10 + (digit.toNat - 48)) 0
    if index < Nat.pow 2 64 then some index else none

namespace Field

/-- Follow one segment of a path. -/
def step? : Field → String → Option Field
  | .node found, segment => found.field? segment
  | .list items, segment => (listIndex? segment).bind (items[·]?)
  | .unmodeled tag, segment => if segment = "type" then some (.text tag) else none
  | .text _, _ | .boolean _, _ | .hole, _ => none

/-- Follow the segments of a path. -/
def follow? (field : Field) (segments : List String) : Option Field :=
  segments.foldlM step? field

end Field

namespace Node

/-- Follow a path of names divided by points. -/
def deepField? (node : Node) (path : String) : Option Field :=
  (Field.node node).follow? (Text.split '.' path)

/-- The text at the end of a path. -/
def deepText? (node : Node) (path : String) : Option String :=
  (node.deepField? path).bind Field.text?

end Node

end DirectiveScan
