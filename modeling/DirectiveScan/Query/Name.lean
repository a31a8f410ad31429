import DirectiveScan.Extract.Error
import DirectiveScan.Tree.Basic

namespace DirectiveScan

/-! Names of calls and member accesses. A chain of members is named by its words
and points. What has no name of its own inside a chain is named by a placeholder
that says what it is; other shapes have no name. -/

namespace Name

def calledCall : String := "(CallExpression)"

/-- A call at the start of a chain of members. -/
def callInMember : String := "(CallExpressionInMember)"

/-- An array literal at the start of a chain of members. -/
def arrayInMember : String := "(ArrayExpressionInMember)"

/-- The name of a property after its object. -/
def ofMemberName : MemberName → Except ExtractError String
  | .name word => .ok word
  | .privateName word => .ok ("#" ++ word)
  | .computed property =>
      match property.unwrap with
      | .node (.string (some text)) => .ok text
      | other => .error (.unhandledNodeShape other.shape)

end Name

/-- The name of what stands before a point. -/
def Expr.objectName : Expr → Except ExtractError String
  | .wrapped .assertion inner types =>
      .error (.unhandledNodeShape (Expr.wrapped .assertion inner types).shape)
  | .wrapped _ inner _ => inner.objectName
  | .node (.identifier name) => .ok name
  | .node (.call ..) => .ok Name.callInMember
  | .node (.array _) => .ok Name.arrayInMember
  | .node (.member owner last) => do
      let start ← owner.objectName
      let word ← Name.ofMemberName last
      return start ++ "." ++ word
  | .node found => .error (.unhandledNodeShape (Expr.node found).shape)
  | .other form parts => .error (.unhandledNodeShape (Expr.other form parts).shape)

def Node.memberName : Node → Except ExtractError String
  | .member owner last => (Expr.node (.member owner last)).objectName
  | node => .error (.unhandledNodeShape node.kind.tag)

def Callee.name : Callee → Except ExtractError String
  | .superClass => .error (.unhandledNodeShape "Super")
  | .moduleImport => .error (.unhandledNodeShape "Import")
  | .expr callee =>
      match callee.unwrap with
      | .node (.identifier name) => .ok name
      | .node (.call ..) => .ok Name.calledCall
      | .node (.member owner last) => (Expr.node (.member owner last)).objectName
      | other => .error (.unhandledNodeShape other.shape)

def Node.callName : Node → Except ExtractError String
  | .call _ callee _ _ => callee.name
  | node => .error (.unhandledNodeShape node.kind.tag)

end DirectiveScan
