namespace DirectiveScan

/-! Everything of a program that is neither an expression nor a modeled node is
a construct: a labelled group of parts in the order in which they are visited. -/

inductive Construct where
  -- statements
  | emptyStatement
  | block
  | expressionStatement
  | debuggerStatement
  | withStatement
  | returnStatement
  | labeledStatement
  | breakStatement
  | continueStatement
  | ifStatement
  | switchStatement
  | switchCase
  | throwStatement
  | tryStatement
  | catchClause
  | whileStatement
  | doWhileStatement
  | forStatement
  | forInStatement
  | forOfStatement
  | usingDeclaration
  -- functions and patterns
  | parameter
  | rest
  | binding
  | arrayPattern
  | objectPattern
  | assignmentPattern
  -- classes
  | classDeclaration
  | method
  | field
  | staticBlock
  | indexSignature
  -- modules
  | importDeclaration
  | importSpecifier
  | exportDeclaration
  | exportDefault
  | exportNames
  | exportSpecifier
  | exportAll
  | importAlias
  | exportAssignment
  | namespaceExport
  -- markup
  | element
  | fragment
  | elementAttribute
  -- types
  | typeParameters
  | typeArguments
  | typeReference
  | typeExpression
  | typePredicate
  | functionType
  | typeMember
  | interfaceDeclaration
  | typeAlias
  | enumDeclaration
  | enumMember
  | namespaceDeclaration
deriving DecidableEq, Repr

end DirectiveScan
