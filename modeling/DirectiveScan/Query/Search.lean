import DirectiveScan.Query.Walker

namespace DirectiveScan

/-! Searches over the nodes met on a walk. -/

/-- Anything a search can start from. -/
inductive Start where
  | program (program : Program)
  | node (node : Node)

namespace Start

/-- Whether the start can itself be found. -/
def isNode : Start → Bool
  | program _ => false
  | node _ => true

/-- A start as the root of a walk. Nodes are owned copies. -/
def root : Start → Root
  | program found => .program found
  | node found => .node found

/-- The walk from a start. -/
def walk : Start → List Visit
  | program found => found.walk
  | node found => found.walk

/-- The accepted nodes, in the order of the walk. -/
def findWhere (start : Start) (accepts : Visit → Bool) : List Node :=
  (start.walk.filter accepts).map (·.node)

/-- The nodes of a kind, in the order of the walk. -/
def findKind (start : Start) (kind : NodeKind) : List Node :=
  start.findWhere fun visit => visit.node.kind = kind

/-- The function declarations of a name. -/
def functionsNamed (start : Start) (name : String) : List Node :=
  start.findWhere fun visit =>
    visit.node.kind = .functionDeclaration && visit.node.deepText? "id.name" = some name

end Start

/-- The variables of a declaration. -/
def Node.declarators : Node → List Declarator
  | .variableDeclaration _ declarators => declarators
  | _ => []

/-- The first value of a declarator. -/
def Declarator.initial : Declarator → Option Expr
  | .mk _ initial => initial

/-- The first values of the variables of a name, declaration by declaration. -/
def Start.initialValuesNamed (start : Start) (name : String) : List Expr :=
  ((start.findKind .variableDeclaration).flatMap Node.declarators).filterMap fun declarator =>
    if (Node.variableDeclarator declarator).deepText? "id.name" = some name then declarator.initial
    else none

/-- Whether a call is `<anything>.then(...)`. -/
def Node.isPromiseCall (node : Node) : Bool :=
  node.kind = .callExpression && node.deepText? "callee.property.name" = some "then"

end DirectiveScan
