import DirectiveScan.Proofs.Query.Walker
import DirectiveScan.Proofs.Query.Walker
import DirectiveScan.Query.Search
import Mathlib.Data.List.Forall2

namespace DirectiveScan

/-! Where nodes occur in a tree.

A tree consists of pieces, and every piece has its immediate pieces. A node occurs in a
piece when a chain of immediate pieces leads to it. The main statement is that a walk
meets exactly the nodes that occur below its start. -/

/-- Anything that a tree is made of. -/
inductive Piece where
  | node (node : Node)
  | expr (expr : Expr)
  | callee (callee : Callee)
  | memberName (name : MemberName)
  | key (key : PropertyKey)
  | entry (entry : Entry)
  | element (element : Element)
  | target (target : Target)
  | part (part : Part)

/-- The immediate pieces of a node. -/
def Node.pieces : Node → List Piece
  | .call _ callee arguments typeArguments =>
      .callee callee :: (arguments.map .expr ++ typeArguments.map .part)
  | .member owner last => [.expr owner, .memberName last]
  | .property key value => [.key key, .expr value]
  | .object entries => entries.map .entry
  | .array elements => elements.map .element
  | .identifier _ | .string _ | .boolean _ => []
  | .function name _ parameters body =>
      name.toList.map (fun name => .node (.identifier name)) ++
        (parameters.map .part ++ body.map .part)
  | .arrow _ parameters body => parameters.map .part ++ body.map .part
  | .functionDeclaration name _ parameters body =>
      .node (.identifier name) :: (parameters.map .part ++ body.map .part)
  | .variableDeclaration _ declarators =>
      declarators.map fun declarator => .node (.variableDeclarator declarator)
  | .variableDeclarator (.mk target initial) => .target target :: initial.toList.map .expr

/-- The immediate pieces of a piece. A shorthand entry stands for a property whose key
and value are its name. -/
def Piece.children : Piece → List Piece
  | .node found => found.pieces
  | .expr (.node found) => [.node found]
  | .expr (.wrapped _ inner types) => .expr inner :: types.map .part
  | .expr (.other _ parts) => parts.map .part
  | .callee (.expr called) => [.expr called]
  | .callee .superClass | .callee .moduleImport => []
  | .memberName (.name word) => [.node (.identifier word)]
  | .memberName (.privateName _) => []
  | .memberName (.computed property) => [.expr property]
  | .key (.name word) => [.node (.identifier word)]
  | .key (.string text) => [.node (.string text)]
  | .key (.number _) | .key .bigInt => []
  | .key (.computed inner) => [.expr inner]
  | .entry (.property first value) => [.node (.property first value)]
  | .entry (.shorthand word) => [.node (.property (.name word) (.node (.identifier word)))]
  | .entry (.initialized word value) => [.node (.identifier word), .expr value]
  | .entry (.method first parts) => .key first :: parts.map .part
  | .entry (.spread value) => [.expr value]
  | .element .hole => []
  | .element (.value value) | .element (.spread value) => [.expr value]
  | .target (.name word types) => .node (.identifier word) :: types.map .part
  | .target (.pattern _ parts) => parts.map .part
  | .part (.node found) => [.node found]
  | .part (.name word) => [.node (.identifier word)]
  | .part (.expr inner) => [.expr inner]
  | .part (.construct _ parts) => parts.map .part

/-- A node is the piece itself or occurs in one of its immediate pieces. -/
inductive Piece.Holds : Piece → Node → Prop
  | here (found : Node) : Holds (.node found) found
  | inside {piece child : Piece} {found : Node} (member : child ∈ piece.children)
      (holds : Holds child found) : Holds piece found

theorem Piece.Holds.trans {piece : Piece} {inner found : Node} (outer : piece.Holds inner)
    (holds : (Piece.node inner).Holds found) : piece.Holds found := by
  induction outer with
  | here _ => exact holds
  | inside isChild _ induction => exact .inside isChild (induction holds)

/-- A node occurs in one of the statements of a program. -/
def Program.Holds (program : Program) (node : Node) : Prop :=
  ∃ part ∈ program.items, (Piece.part part).Holds node

/-- A node that stands as a statement of its own. -/
def Part.statement (found : Node) : Part := .construct .expressionStatement [.expr (.node found)]

theorem Program.holds_of_statement {program : Program} {found : Node}
    (member : Part.statement found ∈ program.items) : program.Holds found := by
  refine ⟨_, member, .inside (List.mem_singleton_self _) ?_⟩
  exact .inside (List.mem_singleton_self _) (.inside (List.mem_singleton_self _) (.here found))

/-! ## Induction over pieces -/

section Induction

variable {Property : Piece → Prop}

/-- A property passes from the immediate pieces of a piece to the piece. -/
def Piece.Inherited (Property : Piece → Prop) : Prop :=
  ∀ piece : Piece, (∀ child ∈ piece.children, Property child) → Property piece

private theorem property_identifier (step : Piece.Inherited Property) (word : String) :
    Property (.node (.identifier word)) :=
  step _ (by simp [Piece.children, Node.pieces])

private theorem property_string (step : Piece.Inherited Property) (text : Option String) :
    Property (.node (.string text)) :=
  step _ (by simp [Piece.children, Node.pieces])

private theorem property_shorthand (step : Piece.Inherited Property) (word : String) :
    Property (.entry (.shorthand word)) := by
  have ofWord := property_identifier step word
  have ofKey : Property (.key (.name word)) := step _ (by simpa [Piece.children] using ofWord)
  have ofValue : Property (.expr (.node (.identifier word))) :=
    step _ (by simpa [Piece.children] using ofWord)
  have ofProperty : Property (.node (.property (.name word) (.node (.identifier word)))) :=
    step _ (by simp [Piece.children, Node.pieces, ofKey, ofValue])
  exact step _ (by simpa [Piece.children] using ofProperty)

mutual

private theorem Node.induct (step : Piece.Inherited Property) :
    ∀ found : Node, Property (.node found)
  | .call _ callee arguments typeArguments => step _ (by
      simpa [Piece.children, Node.pieces, or_imp, forall_and] using
        ⟨callee.induct step, Expr.inductAll step arguments, Part.inductAll step typeArguments⟩)
  | .member owner last => step _ (by
      simpa [Piece.children, Node.pieces] using ⟨owner.induct step, last.induct step⟩)
  | .property key value => step _ (by
      simpa [Piece.children, Node.pieces] using ⟨key.induct step, value.induct step⟩)
  | .object entries => step _ (by
      simpa [Piece.children, Node.pieces] using Entry.inductAll step entries)
  | .array elements => step _ (by
      simpa [Piece.children, Node.pieces] using Element.inductAll step elements)
  | .identifier word => property_identifier step word
  | .string text => property_string step text
  | .boolean _ => step _ (by simp [Piece.children, Node.pieces])
  | .function name _ parameters body => step _ (by
      simpa [Piece.children, Node.pieces, or_imp, forall_and] using
        ⟨fun word _ => property_identifier step word, Part.inductAll step parameters,
          Part.inductAll step body⟩)
  | .arrow _ parameters body => step _ (by
      simpa [Piece.children, Node.pieces, or_imp, forall_and] using
        ⟨Part.inductAll step parameters, Part.inductAll step body⟩)
  | .functionDeclaration name _ parameters body => step _ (by
      simpa [Piece.children, Node.pieces, or_imp, forall_and] using
        ⟨property_identifier step name, Part.inductAll step parameters,
          Part.inductAll step body⟩)
  | .variableDeclaration _ declarators => step _ (by
      simpa [Piece.children, Node.pieces] using Declarator.inductAll step declarators)
  | .variableDeclarator declarator => declarator.induct step

private theorem Expr.induct (step : Piece.Inherited Property) :
    ∀ expr : Expr, Property (.expr expr)
  | .node found => step _ (by simpa [Piece.children] using found.induct step)
  | .wrapped _ inner types => step _ (by
      simpa [Piece.children] using ⟨inner.induct step, Part.inductAll step types⟩)
  | .other _ parts => step _ (by simpa [Piece.children] using Part.inductAll step parts)

private theorem Callee.induct (step : Piece.Inherited Property) :
    ∀ callee : Callee, Property (.callee callee)
  | .expr callee => step _ (by simpa [Piece.children] using callee.induct step)
  | .superClass => step _ (by simp [Piece.children])
  | .moduleImport => step _ (by simp [Piece.children])

private theorem MemberName.induct (step : Piece.Inherited Property) :
    ∀ name : MemberName, Property (.memberName name)
  | .name word => step _ (by simpa [Piece.children] using property_identifier step word)
  | .privateName _ => step _ (by simp [Piece.children])
  | .computed property => step _ (by simpa [Piece.children] using property.induct step)

private theorem PropertyKey.induct (step : Piece.Inherited Property) :
    ∀ key : PropertyKey, Property (.key key)
  | .name word => step _ (by simpa [Piece.children] using property_identifier step word)
  | .string text => step _ (by simpa [Piece.children] using property_string step text)
  | .number _ => step _ (by simp [Piece.children])
  | .bigInt => step _ (by simp [Piece.children])
  | .computed key => step _ (by simpa [Piece.children] using key.induct step)

private theorem Entry.induct (step : Piece.Inherited Property) :
    ∀ entry : Entry, Property (.entry entry)
  | .property key value => step _ (by
      have ofProperty : Property (.node (.property key value)) := step _ (by
        simpa [Piece.children, Node.pieces] using ⟨key.induct step, value.induct step⟩)
      simpa [Piece.children] using ofProperty)
  | .shorthand word => property_shorthand step word
  | .initialized word value => step _ (by
      simpa [Piece.children] using ⟨property_identifier step word, value.induct step⟩)
  | .method key parts => step _ (by
      simpa [Piece.children] using ⟨key.induct step, Part.inductAll step parts⟩)
  | .spread value => step _ (by simpa [Piece.children] using value.induct step)

private theorem Element.induct (step : Piece.Inherited Property) :
    ∀ element : Element, Property (.element element)
  | .hole => step _ (by simp [Piece.children])
  | .value value => step _ (by simpa [Piece.children] using value.induct step)
  | .spread value => step _ (by simpa [Piece.children] using value.induct step)

private theorem Declarator.induct (step : Piece.Inherited Property) :
    ∀ declarator : Declarator, Property (.node (.variableDeclarator declarator))
  | .mk target none => step _ (by
      simpa [Piece.children, Node.pieces] using target.induct step)
  | .mk target (some initial) => step _ (by
      simpa [Piece.children, Node.pieces] using ⟨target.induct step, initial.induct step⟩)

private theorem Target.induct (step : Piece.Inherited Property) :
    ∀ target : Target, Property (.target target)
  | .name word types => step _ (by
      simpa [Piece.children] using ⟨property_identifier step word, Part.inductAll step types⟩)
  | .pattern _ parts => step _ (by simpa [Piece.children] using Part.inductAll step parts)

private theorem Part.induct (step : Piece.Inherited Property) :
    ∀ part : Part, Property (.part part)
  | .node found => step _ (by simpa [Piece.children] using found.induct step)
  | .name word => step _ (by simpa [Piece.children] using property_identifier step word)
  | .expr expr => step _ (by simpa [Piece.children] using expr.induct step)
  | .construct _ parts => step _ (by simpa [Piece.children] using Part.inductAll step parts)

private theorem Expr.inductAll (step : Piece.Inherited Property) :
    ∀ values : List Expr, ∀ value ∈ values, Property (.expr value)
  | [] => by simp
  | value :: rest => by simpa using ⟨value.induct step, Expr.inductAll step rest⟩

private theorem Entry.inductAll (step : Piece.Inherited Property) :
    ∀ entries : List Entry, ∀ entry ∈ entries, Property (.entry entry)
  | [] => by simp
  | entry :: rest => by simpa using ⟨entry.induct step, Entry.inductAll step rest⟩

private theorem Element.inductAll (step : Piece.Inherited Property) :
    ∀ elements : List Element, ∀ element ∈ elements, Property (.element element)
  | [] => by simp
  | element :: rest => by simpa using ⟨element.induct step, Element.inductAll step rest⟩

private theorem Declarator.inductAll (step : Piece.Inherited Property) :
    ∀ declarators : List Declarator, ∀ declarator ∈ declarators,
      Property (.node (.variableDeclarator declarator))
  | [] => by simp
  | declarator :: rest => by
      simpa using ⟨declarator.induct step, Declarator.inductAll step rest⟩

private theorem Part.inductAll (step : Piece.Inherited Property) :
    ∀ parts : List Part, ∀ part ∈ parts, Property (.part part)
  | [] => by simp
  | part :: rest => by simpa using ⟨part.induct step, Part.inductAll step rest⟩

end

/-- What passes from the immediate pieces of a piece to the piece holds of every piece. -/
theorem Piece.induction
    (step : ∀ piece : Piece, (∀ child ∈ piece.children, Property child) → Property piece) :
    ∀ piece : Piece, Property piece
  | .node found => Node.induct step found
  | .expr inner => Expr.induct step inner
  | .callee called => Callee.induct step called
  | .memberName name => MemberName.induct step name
  | .key word => PropertyKey.induct step word
  | .entry one => Entry.induct step one
  | .element one => Element.induct step one
  | .target one => Target.induct step one
  | .part one => Part.induct step one

end Induction

/-! ## Walks -/

/-- The node that a piece is, if it is one. -/
def Piece.own : Piece → List Node
  | .node found => [found]
  | _ => []

/-- The nodes that a walk meets in a piece, in its order. Roles and parents do not
matter for this. -/
def Piece.met : Piece → List Node
  | .node found => found :: found.descendants.map Visit.node
  | .expr inner => (inner.visits .nested none).map Visit.node
  | .callee called => called.visits.map Visit.node
  | .memberName name => name.visits.map Visit.node
  | .key word => (word.visits .nested none).map Visit.node
  | .entry one => (one.visits .nested).map Visit.node
  | .element one => (one.visits .nested).map Visit.node
  | .target one => one.visits.map Visit.node
  | .part one => (one.visits .nested none).map Visit.node

@[simp] theorem Piece.met_node (found : Node) :
    (Piece.node found).met = found :: found.descendants.map Visit.node := rfl

@[simp] theorem Callee.map_node_visits (callee : Callee) :
    callee.visits.map Visit.node = (Piece.callee callee).met := rfl

@[simp] theorem MemberName.map_node_visits (name : MemberName) :
    name.visits.map Visit.node = (Piece.memberName name).met := rfl

@[simp] theorem Target.map_node_visits (target : Target) :
    target.visits.map Visit.node = (Piece.target target).met := rfl

mutual

@[simp] theorem Expr.map_node_visits (role : Role) (parent : Option NodeKind) :
    ∀ expr : Expr, (expr.visits role parent).map Visit.node = (Piece.expr expr).met
  | .node found => by simp [Piece.met, Expr.visits]
  | .wrapped _ inner types => by
      simp [Piece.met, Expr.visits, inner.map_node_visits .nested parent,
        Part.map_node_visitAll .nested _ types]
  | .other _ parts => by
      simp [Piece.met, Expr.visits, Part.map_node_visitAll .nested _ parts]

@[simp] theorem Part.map_node_visits (role : Role) (parent : Option NodeKind) :
    ∀ part : Part, (part.visits role parent).map Visit.node = (Piece.part part).met
  | .node found => by simp [Piece.met, Part.visits]
  | .name word => by simp [Piece.met, Part.visits]
  | .expr expr => by simp [Piece.met, Part.visits, expr.map_node_visits role parent]
  | .construct _ parts => by
      simp [Piece.met, Part.visits, Part.map_node_visitAll _ _ parts]

@[simp] theorem Part.map_node_visitAll (role : Role) (parent : Option NodeKind) :
    ∀ parts : List Part, (Part.visitAll role parent parts).map Visit.node =
      (parts.map Piece.part).flatMap Piece.met
  | [] => by simp [Part.visitAll]
  | part :: rest => by
      simp [Part.visitAll, part.map_node_visits role parent,
        Part.map_node_visitAll (role.after part) parent rest]

end

@[simp] theorem PropertyKey.map_node_visits (role : Role) (parent : Option NodeKind)
    (key : PropertyKey) : (key.visits role parent).map Visit.node = (Piece.key key).met := by
  rw [Piece.met]
  cases key <;> simp [PropertyKey.visits]

@[simp] theorem Entry.map_node_visits (role : Role) (entry : Entry) :
    (entry.visits role).map Visit.node = (Piece.entry entry).met := by
  rw [Piece.met]
  cases entry <;> simp [Entry.visits]

@[simp] theorem Element.map_node_visits (role : Role) (element : Element) :
    (element.visits role).map Visit.node = (Piece.element element).met := by
  rw [Piece.met]
  cases element <;> simp [Element.visits]

@[simp] theorem Expr.map_node_visitArguments (index : Nat) (values : List Expr) :
    (Expr.visitArguments index values).map Visit.node =
      (values.map Piece.expr).flatMap Piece.met := by
  induction values generalizing index with
  | nil => simp [Expr.visitArguments]
  | cons value rest induction => simp [Expr.visitArguments, induction]

@[simp] theorem Entry.map_node_visitAll (index : Nat) (entries : List Entry) :
    (Entry.visitAll index entries).map Visit.node =
      (entries.map Piece.entry).flatMap Piece.met := by
  induction entries generalizing index with
  | nil => simp [Entry.visitAll]
  | cons entry rest induction => simp [Entry.visitAll, induction]

@[simp] theorem Element.map_node_visitAll (index : Nat) (elements : List Element) :
    (Element.visitAll index elements).map Visit.node =
      (elements.map Piece.element).flatMap Piece.met := by
  induction elements generalizing index with
  | nil => simp [Element.visitAll]
  | cons element rest induction => simp [Element.visitAll, induction]

@[simp] theorem Declarator.map_node_visitAll (declarators : List Declarator) :
    (Declarator.visitAll declarators).map Visit.node =
      (declarators.map fun declarator => Piece.node (.variableDeclarator declarator)).flatMap
        Piece.met := by
  induction declarators with
  | nil => simp [Declarator.visitAll]
  | cons declarator rest induction => simp [Declarator.visitAll, Node.descendants, induction]

/-- What a walk meets below a node is what it meets in the immediate pieces of the node. -/
theorem Node.map_node_descendants (found : Node) :
    found.descendants.map Visit.node = found.pieces.flatMap Piece.met := by
  cases found with
  | function name flags parameters body =>
      cases name <;> simp [Node.descendants, Node.pieces]
  | variableDeclarator declarator =>
      rcases declarator with ⟨target, initial⟩
      cases initial <;>
        simp [Node.descendants, Node.pieces, Declarator.descendants, Expr.visitInitial]
  | _ => simp [Node.descendants, Node.pieces]

/-- A walk meets a piece before its immediate pieces, and these one after the other. -/
theorem Piece.met_eq (piece : Piece) :
    piece.met = piece.own ++ piece.children.flatMap Piece.met := by
  cases piece with
  | node found => simp [Piece.own, Piece.children, Node.map_node_descendants]
  | expr inner =>
      rw [Piece.met]
      cases inner <;> simp [Piece.own, Piece.children, Expr.visits]
  | callee called =>
      rw [Piece.met]
      cases called <;> simp [Piece.own, Piece.children, Callee.visits]
  | memberName name =>
      rw [Piece.met]
      cases name <;> simp [Piece.own, Piece.children, MemberName.visits, Node.descendants]
  | key word =>
      rw [Piece.met]
      cases word <;> simp [Piece.own, Piece.children, PropertyKey.visits, Node.descendants]
  | entry one =>
      rw [Piece.met]
      cases one <;>
        simp [Piece.own, Piece.children, Entry.visits, Node.descendants, Expr.visits,
          PropertyKey.visits]
  | element one =>
      rw [Piece.met]
      cases one <;> simp [Piece.own, Piece.children, Element.visits]
  | target one =>
      rw [Piece.met]
      cases one <;> simp [Piece.own, Piece.children, Target.visits, Node.descendants]
  | part one =>
      rw [Piece.met]
      cases one <;> simp [Piece.own, Piece.children, Part.visits, Node.descendants]

/-- The nodes of a piece in preorder: the piece itself comes first if it is a node, and
its immediate pieces follow one after another. -/
inductive Piece.Preorder : Piece → List Node → Prop
  | visit {piece : Piece} {below : List (List Node)}
      (children : List.Forall₂ Preorder piece.children below) :
      Preorder piece (piece.own ++ below.flatten)

/-- The nodes of a program in preorder. -/
def Program.Preorder (program : Program) (nodes : List Node) : Prop :=
  ∃ below, List.Forall₂ Piece.Preorder (program.items.map .part) below ∧ nodes = below.flatten

theorem Piece.preorder_met (piece : Piece) : piece.Preorder piece.met := by
  induction piece using Piece.induction with
  | step piece induction =>
      rw [Piece.met_eq, List.flatMap_def]
      refine .visit (List.forall₂_map_right_iff.mpr ?_)
      exact List.forall₂_same.mpr induction

/-- A piece has one preorder, which is that of the walk. -/
theorem Piece.preorder_iff (piece : Piece) (nodes : List Node) :
    piece.Preorder nodes ↔ nodes = piece.met := by
  constructor
  · intro preorder
    induction piece using Piece.induction generalizing nodes with
    | step piece induction =>
        cases preorder with
        | visit children =>
            have together := (List.forall₂_and_left _ _).mpr ⟨induction, children⟩
            have same : List.Forall₂ (fun child below => Piece.met child = below)
                piece.children _ := together.imp fun child below both => (both.1 below both.2).symm
            rw [← List.forall₂_map_left_iff, List.forall₂_eq_eq_eq] at same
            rw [Piece.met_eq, List.flatMap_def, same]
  · intro equal
    exact equal ▸ piece.preorder_met

/-- A walk meets exactly the nodes that occur in a piece. -/
theorem Piece.mem_met_iff (piece : Piece) (found : Node) :
    found ∈ piece.met ↔ piece.Holds found := by
  constructor
  · intro member
    induction piece using Piece.induction with
    | step piece induction =>
      rw [Piece.met_eq, List.mem_append, List.mem_flatMap] at member
      rcases member with own | ⟨child, isChild, member⟩
      · cases piece with
        | node other =>
            rw [List.mem_singleton.mp own]
            exact .here other
        | _ => simp [Piece.own] at own
      · exact .inside isChild (induction child isChild member)
  · intro holds
    induction holds with
    | here found => simp
    | @inside piece child found isChild _ member =>
        rw [Piece.met_eq]
        exact List.mem_append_right _ (List.mem_flatMap.mpr ⟨child, isChild, member⟩)

theorem Program.map_node_walk (program : Program) :
    program.walk.map Visit.node = (program.items.map Piece.part).flatMap Piece.met := by
  rw [program.walk_eq, Part.map_node_visitAll]

theorem Node.map_node_walk (found : Node) :
    found.walk.map Visit.node = (Piece.node found).met := by
  rw [found.walk_eq]
  rfl

/-- A walk over a program meets its nodes in preorder. -/
theorem Program.preorder_walk (program : Program) :
    program.Preorder (program.walk.map Visit.node) := by
  rw [Program.map_node_walk, List.flatMap_def]
  refine ⟨_, List.forall₂_map_right_iff.mpr ?_, rfl⟩
  exact List.forall₂_same.mpr fun piece _ => piece.preorder_met

/-- A walk over a program meets exactly the nodes that occur in it. -/
theorem Program.mem_walk_iff (program : Program) (found : Node) :
    found ∈ program.walk.map Visit.node ↔ program.Holds found := by
  rw [Program.map_node_walk, List.mem_flatMap]
  constructor
  · intro ⟨piece, member, met⟩
    rcases List.mem_map.mp member with ⟨part, isPart, rfl⟩
    exact ⟨part, isPart, (Piece.mem_met_iff _ found).mp met⟩
  · intro ⟨part, isPart, holds⟩
    exact ⟨.part part, List.mem_map_of_mem isPart, (Piece.mem_met_iff _ found).mpr holds⟩

/-- A search by a property of nodes filters the nodes of the walk. -/
theorem Start.findWhere_node (start : Start) (accepts : Node → Bool) :
    start.findWhere (fun visit => accepts visit.node) =
      (start.walk.map Visit.node).filter accepts := by
  rw [Start.findWhere, List.filter_map]
  rfl

end DirectiveScan
