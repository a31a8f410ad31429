import DirectiveScan.Query.View

namespace DirectiveScan

/-! The walk over a program or a node, as it runs.

A walker carries the role of the slot it has entered, which is pending until the first node
in the slot uses it up, and the kinds of the nodes around. Every node is offered before
the nodes below it. -/

/-- A node as it is offered on a walk. -/
structure Sighting where
  view : View
  role : Role
  /-- The kind of the nearest node above, if there is one. -/
  parent : Option NodeKind

/-- What is left of a sighting when its node is copied. -/
def Sighting.visit (sighting : Sighting) : Visit :=
  ⟨sighting.view.copy, sighting.role, sighting.parent⟩

/-- A walk under way. -/
structure Walker where
  /-- The role that is pending. -/
  role : Role
  /-- The kinds of the nodes around, the nearest one first. -/
  parents : List NodeKind
  /-- The nodes offered so far, the latest one first. -/
  met : List Sighting

namespace Walker

/-- Offer a node, which uses up the pending role. -/
def offer (view : View) (walker : Walker) : Walker where
  role := .nested
  parents := walker.parents
  met := ⟨view, walker.role, walker.parents.head?⟩ :: walker.met

/-- Walk over what is below a node. A role that is still pending at the end is dropped. -/
def within (kind : NodeKind) (go : Walker → Walker) (walker : Walker) : Walker :=
  let inside := go { walker with parents := kind :: walker.parents }
  { inside with role := .nested, parents := inside.parents.tail }

/-- Walk over what stands in a slot. -/
def slot (role : Role) (go : Walker → Walker) (walker : Walker) : Walker :=
  go { walker with role }

/-- Walk over a property of an object literal. -/
def property (key : PropertyKey) (value : Expr) (goKey goValue : Walker → Walker)
    (walker : Walker) : Walker :=
  (walker.offer (.property key value)).within .objectProperty fun walker =>
    (walker.slot .key goKey).slot .value goValue

end Walker

mutual

def Node.traverse : Node → Walker → Walker
  | .call start callee arguments typeArguments => fun walker =>
      (walker.offer (.call ⟨start, callee, arguments, typeArguments⟩)).within .callExpression
        fun walker =>
          (Expr.traverseArguments 0 arguments (walker.slot .callee callee.traverse)).slot .nested
            (Part.traverseAll typeArguments)
  | .member owner last => fun walker =>
      (walker.offer (.member owner last)).within .memberExpression fun walker =>
        (walker.slot .object owner.traverse).slot .property last.traverse
  | .property key value => Walker.property key value key.traverse value.traverse
  | .object entries => fun walker =>
      (walker.offer (.object entries)).within .objectExpression (Entry.traverseAll 0 entries)
  | .array elements => fun walker =>
      (walker.offer (.array elements)).within .arrayExpression (Element.traverseAll 0 elements)
  | .identifier name => Walker.offer (.ident name)
  | .string text => Walker.offer (.string text)
  | .boolean value => Walker.offer (.boolean value)
  | .function name flags parameters body => fun walker =>
      (walker.offer (.function name flags parameters body)).within .functionExpression
        fun walker =>
          let named :=
            match name with
            | some name => walker.offer (.ident name)
            | none => walker
          Part.traverseAll body (Part.traverseAll parameters named)
  | .arrow isAsync parameters body => fun walker =>
      (walker.offer (.arrow isAsync parameters body)).within .arrowFunctionExpression
        fun walker => Part.traverseAll body (Part.traverseAll parameters walker)
  | .functionDeclaration name flags parameters body => fun walker =>
      (walker.offer (.functionDeclaration name flags parameters body)).within
        .functionDeclaration fun walker =>
          Part.traverseAll body (Part.traverseAll parameters (walker.offer (.ident name)))
  | .variableDeclaration kind declarators => fun walker =>
      (walker.offer (.variableDeclaration kind declarators)).within .variableDeclaration
        (Declarator.traverseAll declarators)
  | .variableDeclarator declarator => declarator.traverse

/-- An expression that is no node uses up the pending role. -/
def Expr.traverse : Expr → Walker → Walker
  | .node found => found.traverse
  | .wrapped _ inner types => fun walker =>
      Part.traverseAll types (walker.slot .nested inner.traverse)
  | .other _ parts => fun walker => walker.slot .nested (Part.traverseAll parts)

def Callee.traverse : Callee → Walker → Walker
  | .expr callee => callee.traverse
  | .superClass | .moduleImport => id

def MemberName.traverse : MemberName → Walker → Walker
  | .name word => Walker.offer (.name word)
  | .privateName _ => id
  | .computed property => property.traverse

def PropertyKey.traverse : PropertyKey → Walker → Walker
  | .name word => Walker.offer (.name word)
  | .string text => Walker.offer (.string text)
  | .number _ | .bigInt => id
  | .computed key => key.traverse

/-- For a shorthand entry a property is made up, whose key is a name and whose value is a
variable. -/
def Entry.traverse : Entry → Walker → Walker
  | .property key value => Walker.property key value key.traverse value.traverse
  | .shorthand name =>
      Walker.property (.name name) (.node (.identifier name)) (Walker.offer (.name name))
        (Walker.offer (.ident name))
  | .initialized name value => fun walker => value.traverse (walker.offer (.ident name))
  | .method key parts => fun walker => Part.traverseAll parts (key.traverse walker)
  | .spread value => value.traverse

def Element.traverse : Element → Walker → Walker
  | .hole => id
  | .value value | .spread value => value.traverse

def Declarator.traverse : Declarator → Walker → Walker
  | .mk target initial => fun walker =>
      (walker.offer (.variableDeclarator (.mk target initial))).within .variableDeclarator
        fun walker => Expr.traverseInitial initial (target.traverse walker)

def Target.traverse : Target → Walker → Walker
  | .name name types => fun walker => Part.traverseAll types (walker.offer (.ident name))
  | .pattern _ parts => Part.traverseAll parts

def Part.traverse : Part → Walker → Walker
  | .node found => found.traverse
  | .name word => Walker.offer (.name word)
  | .expr expr => expr.traverse
  | .construct _ parts => Part.traverseAll parts

def Expr.traverseArguments (index : Nat) : List Expr → Walker → Walker
  | [] => id
  | value :: rest => fun walker =>
      Expr.traverseArguments (index + 1) rest (walker.slot (.argument index) value.traverse)

def Entry.traverseAll (index : Nat) : List Entry → Walker → Walker
  | [] => id
  | entry :: rest => fun walker =>
      Entry.traverseAll (index + 1) rest (walker.slot (.entry index) entry.traverse)

def Element.traverseAll (index : Nat) : List Element → Walker → Walker
  | [] => id
  | element :: rest => fun walker =>
      Element.traverseAll (index + 1) rest (walker.slot (.element index) element.traverse)

def Declarator.traverseAll : List Declarator → Walker → Walker
  | [] => id
  | declarator :: rest => fun walker => Declarator.traverseAll rest (declarator.traverse walker)

def Expr.traverseInitial : Option Expr → Walker → Walker
  | none => id
  | some value => value.traverse

def Part.traverseAll : List Part → Walker → Walker
  | [] => id
  | part :: rest => fun walker => Part.traverseAll rest (part.traverse walker)

end

def View.traverse : View → Walker → Walker
  | .call found => found.node.traverse
  | .member owner last => (Node.member owner last).traverse
  | .property key value => (Node.property key value).traverse
  | .object entries => (Node.object entries).traverse
  | .array elements => (Node.array elements).traverse
  | .ident word => Walker.offer (.ident word)
  | .name word => Walker.offer (.name word)
  | .string text => Walker.offer (.string text)
  | .boolean value => Walker.offer (.boolean value)
  | .function word flags parameters body => (Node.function word flags parameters body).traverse
  | .arrow isAsync parameters body => (Node.arrow isAsync parameters body).traverse
  | .functionDeclaration word flags parameters body =>
      (Node.functionDeclaration word flags parameters body).traverse
  | .variableDeclaration kind declarators => (Node.variableDeclaration kind declarators).traverse
  | .variableDeclarator declarator => declarator.traverse

/-! ## Starts -/

/-- Anything a walk can start from. -/
inductive Root where
  /-- A program, or the module or script that it consists of. -/
  | program (program : Program)
  /-- A node that is looked at where it stands. -/
  | view (view : View)
  /-- An owned copy. -/
  | node (node : Node)
  | call (call : Call)

namespace Root

/-- Whether a walk offers its start. -/
def isNode : Root → Bool
  | program _ => false
  | view _ | node _ | call _ => true

def traverse : Root → Walker → Walker
  | program found => Part.traverseAll found.items
  | view found => found.traverse
  | node found => found.asView.traverse
  | call found => found.node.traverse

/-- The nodes that are offered from a start on, in their order. -/
def walk (root : Root) : List Sighting :=
  let start : Walker := ⟨if root.isNode then .root else .nested, [], []⟩
  (root.traverse start).met.reverse

/-- Owned copies of the accepted nodes, in the order of the walk. -/
def findWhere (root : Root) (accepts : Sighting → Bool) : List Node :=
  (root.walk.filter accepts).map fun sighting => sighting.view.copy

/-- The walk, of which only copies of the nodes are kept. -/
def visits (root : Root) : List Visit := root.walk.map Sighting.visit

end Root

/-- The walk from an owned copy. -/
def Node.walk (node : Node) : List Visit := (Root.node node).visits

/-- The walk over a whole program, which is itself no node. -/
def Program.walk (program : Program) : List Visit := (Root.program program).visits

end DirectiveScan
