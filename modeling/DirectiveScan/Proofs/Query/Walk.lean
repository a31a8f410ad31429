import DirectiveScan.Query.Role

namespace DirectiveScan

/-! The visits of a walk as lists, without the walker.

A walk meets every node below its start, each one before the nodes below it. A slot hands
its role to the first thing in it: a node takes the role, and an expression of another shape
uses it up without taking it. Parts that hold neither leave the role to whatever follows them
in the same slot. -/

mutual

/-- Whether a part uses up the role of its slot. -/
def Part.takesRole : Part → Bool
  | .node _ => true
  | .name _ => true
  | .expr _ => true
  | .construct _ parts => Part.anyTakesRole parts

def Part.anyTakesRole : List Part → Bool
  | [] => false
  | part :: rest => part.takesRole || Part.anyTakesRole rest

end

/-- The role left after a part had the chance to use it up. -/
def Role.after (role : Role) (part : Part) : Role := if part.takesRole then .nested else role

/-- Whether a key uses up the role of its entry; numbers do not. -/
def PropertyKey.takesRole : PropertyKey → Bool
  | .name _ | .string _ | .computed _ => true
  | .number _ | .bigInt => false

def Role.afterKey (role : Role) (key : PropertyKey) : Role :=
  if key.takesRole then .nested else role

mutual

/-- The nodes strictly below a node. They do not depend on where the node sits. -/
def Node.descendants : Node → List Visit
  | .call _ callee arguments typeArguments =>
      callee.visits ++ Expr.visitArguments 0 arguments ++
        Part.visitAll .nested (some .callExpression) typeArguments
  | .member object property => object.visits .object (some .memberExpression) ++ property.visits
  | .property key value =>
      key.visits .key (some .objectProperty) ++ value.visits .value (some .objectProperty)
  | .object entries => Entry.visitAll 0 entries
  | .array elements => Element.visitAll 0 elements
  | .identifier _ => []
  | .string _ => []
  | .boolean _ => []
  | .function name _ parameters body =>
      (match name with
        | some name => [⟨.identifier name, .nested, some .functionExpression⟩]
        | none => []) ++
        Part.visitAll .nested (some .functionExpression) parameters ++
        Part.visitAll .nested (some .functionExpression) body
  | .arrow _ parameters body =>
      Part.visitAll .nested (some .arrowFunctionExpression) parameters ++
        Part.visitAll .nested (some .arrowFunctionExpression) body
  | .functionDeclaration name _ parameters body =>
      ⟨.identifier name, .nested, some .functionDeclaration⟩ ::
        (Part.visitAll .nested (some .functionDeclaration) parameters ++
          Part.visitAll .nested (some .functionDeclaration) body)
  | .variableDeclaration _ declarators => Declarator.visitAll declarators
  | .variableDeclarator declarator => declarator.descendants

/-- The nodes of an expression in a slot. -/
def Expr.visits (role : Role) (parent : Option NodeKind) : Expr → List Visit
  | .node node => ⟨node, role, parent⟩ :: node.descendants
  | .wrapped _ inner types =>
      inner.visits .nested parent ++ Part.visitAll .nested parent types
  | .other _ parts => Part.visitAll .nested parent parts

def Callee.visits : Callee → List Visit
  | .expr callee => callee.visits .callee (some .callExpression)
  | .superClass => []
  | .moduleImport => []

def MemberName.visits : MemberName → List Visit
  | .name name => [⟨.identifier name, .property, some .memberExpression⟩]
  | .privateName _ => []
  | .computed property => property.visits .property (some .memberExpression)

def PropertyKey.visits (role : Role) (parent : Option NodeKind) : PropertyKey → List Visit
  | .name name => [⟨.identifier name, role, parent⟩]
  | .string text => [⟨.string text, role, parent⟩]
  | .number _ => []
  | .bigInt => []
  | .computed key => key.visits role parent

/-- The nodes of an entry of an object literal. A shorthand entry is met as a
property whose key and value are the name. -/
def Entry.visits (role : Role) : Entry → List Visit
  | .property key value =>
      ⟨.property key value, role, some .objectExpression⟩ ::
        (key.visits .key (some .objectProperty) ++ value.visits .value (some .objectProperty))
  | .shorthand name =>
      [⟨.property (.name name) (.node (.identifier name)), role, some .objectExpression⟩,
       ⟨.identifier name, .key, some .objectProperty⟩,
       ⟨.identifier name, .value, some .objectProperty⟩]
  | .initialized name value =>
      ⟨.identifier name, role, some .objectExpression⟩ ::
        value.visits .nested (some .objectExpression)
  | .method key parts =>
      key.visits role (some .objectExpression) ++
        Part.visitAll (role.afterKey key) (some .objectExpression) parts
  | .spread value => value.visits role (some .objectExpression)

def Element.visits (role : Role) : Element → List Visit
  | .hole => []
  | .value value => value.visits role (some .arrayExpression)
  | .spread value => value.visits role (some .arrayExpression)

/-- The nodes strictly below a declarator. -/
def Declarator.descendants : Declarator → List Visit
  | .mk target initial => target.visits ++ Expr.visitInitial initial

def Target.visits : Target → List Visit
  | .name name types =>
      ⟨.identifier name, .nested, some .variableDeclarator⟩ ::
        Part.visitAll .nested (some .variableDeclarator) types
  | .pattern _ parts => Part.visitAll .nested (some .variableDeclarator) parts

/-- The nodes of a part in a slot. -/
def Part.visits (role : Role) (parent : Option NodeKind) : Part → List Visit
  | .node node => ⟨node, role, parent⟩ :: node.descendants
  | .name word => [⟨.identifier word, role, parent⟩]
  | .expr expr => expr.visits role parent
  | .construct _ parts => Part.visitAll role parent parts

def Expr.visitArguments (index : Nat) : List Expr → List Visit
  | [] => []
  | value :: rest =>
      value.visits (.argument index) (some .callExpression) ++ Expr.visitArguments (index + 1) rest

def Entry.visitAll (index : Nat) : List Entry → List Visit
  | [] => []
  | entry :: rest => entry.visits (.entry index) ++ Entry.visitAll (index + 1) rest

def Element.visitAll (index : Nat) : List Element → List Visit
  | [] => []
  | element :: rest => element.visits (.element index) ++ Element.visitAll (index + 1) rest

def Declarator.visitAll : List Declarator → List Visit
  | [] => []
  | declarator :: rest =>
      ⟨.variableDeclarator declarator, .nested, some .variableDeclaration⟩ ::
        (declarator.descendants ++ Declarator.visitAll rest)

def Expr.visitInitial : Option Expr → List Visit
  | none => []
  | some value => value.visits .nested (some .variableDeclarator)

def Part.visitAll (role : Role) (parent : Option NodeKind) : List Part → List Visit
  | [] => []
  | part :: rest => part.visits role parent ++ Part.visitAll (role.after part) parent rest

end

end DirectiveScan
