import DirectiveScan.Tree.Basic

namespace DirectiveScan

/-! Patterns. A pattern is a construct that binds or assigns names. An
assignment starts like an expression and is recognised as a pattern only at its
equals sign, so expressions can be read as patterns. -/

namespace PropertyKey

/-- What is visited of a key. -/
def parts : PropertyKey → List Part
  | name word => [.name word]
  | string text => [.node (.string text)]
  | number _ | bigInt => []
  | computed key => [.expr key]

end PropertyKey

namespace Target

def identifier (name : String) : Target := .name name []

/-- A target as a part of a construct. -/
def part : Target → Part
  | .name word [] => .node (.identifier word)
  | .name word types => .construct .binding (.node (.identifier word) :: types)
  | .pattern .array parts => .construct .arrayPattern parts
  | .pattern .object parts => .construct .objectPattern parts

/-- A target with a type written after it. -/
def annotate : Target → List Part → Target
  | .name word types, further => .name word (types ++ further)
  | .pattern shape parts, further => .pattern shape (parts ++ further)

end Target

namespace Expr

/-- Whether an expression names a single place that can be assigned. -/
def isAssignable : Expr → Bool
  | .node (.identifier _) => true
  | .node (.member ..) => true
  | .other .superMember _ => true
  | .wrapped _ inner _ => inner.isAssignable
  | _ => false

def isAssignment : Expr → Bool
  | .other .assignment _ => true
  | _ => false

end Expr

mutual

/-- Read an expression as the left side of an assignment inside a pattern. -/
def Expr.pattern? : Expr → Option Part
  | .node (.identifier name) => some (.node (.identifier name))
  | .node (.member object property) => some (.expr (.node (.member object property)))
  | .node (.object entries) => (Entry.patterns? entries).map (.construct .objectPattern ·)
  | .node (.array elements) => (Element.patterns? elements).map (.construct .arrayPattern ·)
  | .wrapped wrapper inner types =>
      if inner.isAssignable then some (.expr (.wrapped wrapper inner types)) else none
  | .other .assignment parts => some (.construct .assignmentPattern parts)
  | .other .superMember parts => some (.expr (.other .superMember parts))
  | _ => none

/-- What is spread takes all that remains: nothing follows it and it has no
default. -/
def Entry.patterns? : List Entry → Option (List Part)
  | [] => some []
  | .property key value :: rest => do
      let target ← value.pattern?
      let others ← Entry.patterns? rest
      return key.parts ++ target :: others
  | .shorthand name :: rest => do
      return .node (.identifier name) :: (← Entry.patterns? rest)
  | .initialized name value :: rest => do
      return .node (.identifier name) :: .expr value :: (← Entry.patterns? rest)
  | [.spread value] => if value.isAssignment then none else value.pattern?.map ([·])
  | .spread _ :: _ => none
  | .method .. :: _ => none

def Element.patterns? : List Element → Option (List Part)
  | [] => some []
  | .hole :: rest => Element.patterns? rest
  | .value value :: rest => do
      let target ← value.pattern?
      return target :: (← Element.patterns? rest)
  | [.spread value] => if value.isAssignment then none else value.pattern?.map ([·])
  | .spread _ :: _ => none

end

end DirectiveScan
