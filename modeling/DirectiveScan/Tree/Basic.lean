import DirectiveScan.Number.Decimal
import DirectiveScan.Tree.Construct
import DirectiveScan.Tree.Kind

namespace DirectiveScan

/-! Programs as trees. The thirteen kinds of nodes carry the fields that queries
ask for. An expression is such a node, a wrapped expression, or an expression of
some other shape, of which only the parts below it are kept. All parts are kept
in the order in which they are visited, which for most constructs is the order
in which they are written. -/

structure FunctionFlags where
  isAsync : Bool
  isGenerator : Bool
deriving DecidableEq, Repr

mutual

/-- A modeled node. -/
inductive Node where
  /-- A call, which starts at an offset of the source text. -/
  | call (start : Nat) (callee : Callee) (arguments : List Expr) (typeArguments : List Part)
  | member (object : Expr) (property : MemberName)
  | property (key : PropertyKey) (value : Expr)
  | object (entries : List Entry)
  | array (elements : List Element)
  | identifier (name : String)
  /-- A string literal; it has no text if it holds half a character. -/
  | string (text : Option String)
  | boolean (value : Bool)
  | function (name : Option String) (flags : FunctionFlags) (parameters body : List Part)
  | arrow (isAsync : Bool) (parameters body : List Part)
  | functionDeclaration (name : String) (flags : FunctionFlags) (parameters body : List Part)
  | variableDeclaration (kind : VariableKind) (declarators : List Declarator)
  | variableDeclarator (declarator : Declarator)

inductive Expr where
  | node (node : Node)
  | wrapped (wrapper : Wrapper) (inner : Expr) (types : List Part)
  | other (shape : ExprShape) (parts : List Part)

inductive Callee where
  | expr (callee : Expr)
  /-- `super(...)` -/
  | superClass
  /-- `import(...)` -/
  | moduleImport

/-- What stands after the object of a member access. -/
inductive MemberName where
  | name (name : String)
  | privateName (name : String)
  | computed (property : Expr)

inductive PropertyKey where
  | name (name : String)
  | string (text : Option String)
  | number (value : Decimal)
  | bigInt
  | computed (key : Expr)

/-- An entry of an object literal. -/
inductive Entry where
  | property (key : PropertyKey) (value : Expr)
  /-- `{ name }`, which stands for `{ name: name }` -/
  | shorthand (name : String)
  /-- `{ name = value }`, which only a pattern may hold -/
  | initialized (name : String) (value : Expr)
  /-- A method, getter or setter. -/
  | method (key : PropertyKey) (parts : List Part)
  | spread (value : Expr)

/-- An element of an array literal. -/
inductive Element where
  | hole
  | value (value : Expr)
  | spread (value : Expr)

/-- One variable of a declaration. -/
inductive Declarator where
  | mk (target : Target) (initial : Option Expr)

/-- What a declarator binds. -/
inductive Target where
  | name (name : String) (types : List Part)
  | pattern (shape : PatternShape) (parts : List Part)

/-- A piece of a construct. -/
inductive Part where
  | node (node : Node)
  /-- A word that names no variable, such as the key of a class member. -/
  | name (word : String)
  | expr (expr : Expr)
  | construct (label : Construct) (parts : List Part)

end

inductive ProgramKind where
  | module
  | script
deriving DecidableEq, Repr

/-- A parsed source file: one part per top level statement. -/
structure Program where
  kind : ProgramKind
  items : List Part

namespace Node

def kind : Node → NodeKind
  | call .. => .callExpression
  | member .. => .memberExpression
  | property .. => .objectProperty
  | object .. => .objectExpression
  | array .. => .arrayExpression
  | identifier .. => .identifier
  | string .. => .stringLiteral
  | boolean .. => .booleanLiteral
  | function .. => .functionExpression
  | arrow .. => .arrowFunctionExpression
  | functionDeclaration .. => .functionDeclaration
  | variableDeclaration .. => .variableDeclaration
  | variableDeclarator .. => .variableDeclarator

end Node

namespace MemberName

def isComputed : MemberName → Bool
  | name _ | privateName _ => false
  | computed _ => true

end MemberName

namespace Expr

/-- The tag of an expression's shape. The last four kinds of nodes stand in no place of an
expression. -/
def shape : Expr → String
  | .node (.array ..) => "ArrayExpression"
  | .node (.object ..) => "ObjectExpression"
  | .node (.function ..) => "FunctionExpression"
  | .node (.member ..) => "MemberExpression"
  | .node (.call ..) => "CallExpression"
  | .node (.identifier ..) => "Identifier"
  | .node (.string ..) => "StringLiteral"
  | .node (.boolean ..) => "BooleanLiteral"
  | .node (.arrow ..) => "ArrowFunctionExpression"
  | .node (.property ..) => "ObjectProperty"
  | .node (.functionDeclaration ..) => "FunctionDeclaration"
  | .node (.variableDeclaration ..) => "VariableDeclaration"
  | .node (.variableDeclarator ..) => "VariableDeclarator"
  | wrapped wrapper _ _ => wrapper.tag
  | other form _ => form.tag

/-- The expression below the wrappers that do not matter for names. An assertion
written in front of its operand is not removed. -/
def unwrap : Expr → Expr
  | wrapped .assertion inner types => wrapped .assertion inner types
  | wrapped _ inner _ => unwrap inner
  | .node inner => .node inner
  | other form parts => .other form parts

end Expr

namespace Entry

/-- The tag of an entry that is no property with a key and a value. -/
def shape : Entry → String
  | property .. | shorthand .. => "ObjectProperty"
  | initialized .. => "AssignmentPattern"
  | method .. => "ObjectMethod"
  | spread .. => "SpreadElement"

end Entry

end DirectiveScan
