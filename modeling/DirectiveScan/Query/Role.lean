import DirectiveScan.Tree.Basic

namespace DirectiveScan

/-! Where a node sits: the slot it fills, and the kind of the nearest node above
it. -/

/-- The slot a node fills in the nearest node above it. -/
inductive Role where
  /-- The node a walk started from. -/
  | root
  | callee
  | argument (index : Nat)
  | object
  | property
  | key
  | value
  /-- An entry of an object literal. -/
  | entry (index : Nat)
  /-- An element of an array literal. -/
  | element (index : Nat)
  /-- Anywhere below a slot. -/
  | nested
deriving DecidableEq, Repr

def Role.text : Role → String
  | root => "Root"
  | callee => "Callee"
  | argument index => "Argument(" ++ toString index ++ ")"
  | object => "Object"
  | property => "Property"
  | key => "Key"
  | value => "Value"
  | entry index => "Entry(" ++ toString index ++ ")"
  | element index => "Element(" ++ toString index ++ ")"
  | nested => "Nested"

/-- A node met on a walk. -/
structure Visit where
  node : Node
  role : Role
  /-- The kind of the nearest node above, if there is one. -/
  parent : Option NodeKind

/-- Whether the node is passed to a call. -/
def Visit.isCallArgument (visit : Visit) : Bool :=
  match visit.role with
  | .argument _ => visit.parent = some .callExpression
  | _ => false

end DirectiveScan
