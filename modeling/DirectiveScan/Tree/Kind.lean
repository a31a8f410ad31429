namespace DirectiveScan

/-! The vocabulary of the tree: the kinds of modeled nodes and the shapes of
expressions that are not modeled. Both have a tag, which is how queries and
messages name them. -/

/-- The kinds of nodes a query can match. -/
inductive NodeKind where
  | callExpression
  | memberExpression
  | objectProperty
  | objectExpression
  | arrayExpression
  | identifier
  | stringLiteral
  | booleanLiteral
  | functionExpression
  | arrowFunctionExpression
  | functionDeclaration
  | variableDeclaration
  | variableDeclarator
deriving DecidableEq, Repr

namespace NodeKind

def all : List NodeKind :=
  [.callExpression, .memberExpression, .objectProperty, .objectExpression, .arrayExpression,
   .identifier, .stringLiteral, .booleanLiteral, .functionExpression, .arrowFunctionExpression,
   .functionDeclaration, .variableDeclaration, .variableDeclarator]

def tag : NodeKind → String
  | callExpression => "CallExpression"
  | memberExpression => "MemberExpression"
  | objectProperty => "ObjectProperty"
  | objectExpression => "ObjectExpression"
  | arrayExpression => "ArrayExpression"
  | identifier => "Identifier"
  | stringLiteral => "StringLiteral"
  | booleanLiteral => "BooleanLiteral"
  | functionExpression => "FunctionExpression"
  | arrowFunctionExpression => "ArrowFunctionExpression"
  | functionDeclaration => "FunctionDeclaration"
  | variableDeclaration => "VariableDeclaration"
  | variableDeclarator => "VariableDeclarator"

/-- A tag that names no kind. -/
structure Unknown where
  tag : String
deriving DecidableEq, Repr

def Unknown.message (unknown : Unknown) : String := "unknown node type: " ++ unknown.tag

def ofTag (tag : String) : Except Unknown NodeKind :=
  match all.find? (·.tag = tag) with
  | some kind => .ok kind
  | none => .error ⟨tag⟩

/-- Every kind is found under its tag. -/
theorem ofTag_tag (kind : NodeKind) : ofTag kind.tag = .ok kind := by
  cases kind <;> rfl

end NodeKind

inductive ExprShape where
  | this
  | unary
  | update
  | binary
  | assignment
  | superMember
  | conditional
  | new
  | sequence
  | null
  | numeric
  | bigInt
  | regExp
  | template
  | taggedTemplate
  | classDefinition
  | yield
  | await
  | optionalChain
  /-- Markup, meta properties and everything only typed code has. -/
  | other
deriving DecidableEq, Repr

def ExprShape.tag : ExprShape → String
  | this => "ThisExpression"
  | unary => "UnaryExpression"
  | update => "UpdateExpression"
  | binary => "BinaryExpression"
  | assignment => "AssignmentExpression"
  | superMember => "SuperMemberExpression"
  | conditional => "ConditionalExpression"
  | new => "NewExpression"
  | sequence => "SequenceExpression"
  | null => "NullLiteral"
  | numeric => "NumericLiteral"
  | bigInt => "BigIntLiteral"
  | regExp => "RegExpLiteral"
  | template => "TemplateLiteral"
  | taggedTemplate => "TaggedTemplateExpression"
  | classDefinition => "ClassExpression"
  | yield => "YieldExpression"
  | await => "AwaitExpression"
  | optionalChain => "OptionalChainExpression"
  | other => "Expression"

/-- Forms that wrap an expression without changing which value it names. -/
inductive Wrapper where
  /-- `(value)` -/
  | parentheses
  /-- `value as Type` -/
  | asType
  /-- `value as const` -/
  | asConst
  /-- `value satisfies Type` -/
  | satisfies
  /-- `value!` -/
  | nonNull
  /-- `<Type>value` -/
  | assertion
deriving DecidableEq, Repr

def Wrapper.tag : Wrapper → String
  | parentheses => "ParenthesizedExpression"
  | _ => "Expression"

/-- Shapes of binding patterns other than a plain name. -/
inductive PatternShape where
  | array
  | object
deriving DecidableEq, Repr

def PatternShape.tag : PatternShape → String
  | array => "ArrayPattern"
  | object => "ObjectPattern"

inductive VariableKind where
  /-- `var` -/
  | functionScoped
  /-- `let` -/
  | blockScoped
  /-- `const` -/
  | constant
deriving DecidableEq, Repr

def VariableKind.text : VariableKind → String
  | functionScoped => "var"
  | blockScoped => "let"
  | constant => "const"

end DirectiveScan
