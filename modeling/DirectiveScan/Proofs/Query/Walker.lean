import DirectiveScan.Proofs.Query.View
import DirectiveScan.Proofs.Query.Walk
import DirectiveScan.Query.Search

namespace DirectiveScan

/-! What a walk offers.

A walker enters a piece of the tree with a pending role and with the nodes around, and
nothing else that it carries matters in the piece. The main statements are that copies of what
a walk offers are the visits of the walk, and that what is offered below a node is offered
in the same way by every walk that starts from this node. -/

/-- What a walk from the node of a sighting offers below the node. -/
def Sighting.IsAlone (sighting : Sighting) (below : List Sighting) : Prop :=
  (Root.view sighting.view).walk = ⟨sighting.view, .root, none⟩ :: below

/-- Right behind every sighting follows what a walk from its node offers below the node. -/
def Local (sightings : List Sighting) : Prop :=
  ∀ before sighting rest, sightings = before ++ sighting :: rest →
    ∃ below after, rest = below ++ after ∧ sighting.IsAlone below

namespace Local

theorem nil : Local [] := by
  intro before sighting rest isNil
  simp at isNil

theorem append {left right : List Sighting} (first : Local left) (second : Local right) :
    Local (left ++ right) := by
  intro before sighting rest isSplit
  rcases List.append_eq_append_iff.mp isSplit with ⟨front, _, inRight⟩ | ⟨back, inLeft, isRest⟩
  · exact second front sighting rest inRight
  · cases back with
    | nil => exact second [] sighting rest isRest.symm
    | cons head back =>
        rcases List.cons_eq_cons.mp isRest with ⟨rfl, rfl⟩
        rcases first before sighting back inLeft with ⟨below, after, rfl, alone⟩
        exact ⟨below, after ++ right, List.append_assoc .., alone⟩

theorem cons {sighting : Sighting} {below : List Sighting} (alone : sighting.IsAlone below)
    (inside : Local below) : Local (sighting :: below) := by
  intro before other rest isSplit
  rcases List.cons_eq_append_iff.mp isSplit with ⟨rfl, isHead⟩ | ⟨front, _, isBelow⟩
  · rcases List.cons_eq_cons.mp isHead with ⟨rfl, rfl⟩
    exact ⟨rest, [], (List.append_nil _).symm, alone⟩
  · exact inside front other rest isBelow

end Local

/-! ## Traversals -/

/-- With a pending role and below a parent, a traversal offers nodes whose copies are the
given visits, and leaves a role. Nothing else that the walker carries matters. -/
def Offers (role : Role) (parent : Option NodeKind) (go : Walker → Walker) (left : Role)
    (visits : List Visit) : Prop :=
  ∃ sightings : List Sighting,
    (∀ parents met, parents.head? = parent →
      go ⟨role, parents, met⟩ = ⟨left, parents, sightings.reverse ++ met⟩) ∧
    sightings.map Sighting.visit = visits ∧ Local sightings

namespace Offers

variable {role left leftNext : Role} {parent : Option NodeKind} {go next : Walker → Walker}
  {visits visitsNext : List Visit}

theorem nothing : Offers role parent id role [] :=
  ⟨[], fun _ _ _ => rfl, rfl, .nil⟩

theorem andThen (first : Offers role parent go left visits)
    (second : Offers left parent next leftNext visitsNext) :
    Offers role parent (fun walker => next (go walker)) leftNext (visits ++ visitsNext) := by
  rcases first with ⟨sightings, run, isVisits, isLocal⟩
  rcases second with ⟨others, runNext, isNext, nextLocal⟩
  refine ⟨sightings ++ others, fun parents met isParent => ?_, ?_, isLocal.append nextLocal⟩
  · simp only [run parents met isParent, runNext parents _ isParent, List.reverse_append,
      List.append_assoc]
  · rw [List.map_append, isVisits, isNext]

/-- A slot has its own role, whichever role is pending. -/
theorem slot {inner : Role} (inside : Offers inner parent go left visits) :
    Offers role parent (Walker.slot inner go) left visits :=
  inside

theorem offer (view : View) (isLeaf : view.traverse = Walker.offer view) :
    Offers role parent (Walker.offer view) .nested [⟨view.copy, role, parent⟩] := by
  refine ⟨[⟨view, role, parent⟩], fun parents met isParent => ?_, rfl, .cons ?_ .nil⟩
  · rw [← isParent]
    rfl
  · rw [Sighting.IsAlone, Root.walk, Root.traverse, isLeaf]
    rfl

/-- A node is offered before what is below it, where its role and parent no longer matter. -/
theorem node (view : View) {kind : NodeKind}
    (isWalk : view.traverse = fun walker => (walker.offer view).within kind go)
    (inside : Offers .nested (some kind) go left visits) :
    Offers role parent view.traverse .nested (⟨view.copy, role, parent⟩ :: visits) := by
  rcases inside with ⟨below, run, isVisits, isLocal⟩
  have offered (role : Role) (parents : List NodeKind) (met : List Sighting) :
      view.traverse ⟨role, parents, met⟩ =
        ⟨.nested, parents, below.reverse ++ ⟨view, role, parents.head?⟩ :: met⟩ := by
    rw [isWalk]
    simp only [Walker.within, Walker.offer]
    rw [run (kind :: parents) _ rfl]
    rfl
  refine ⟨⟨view, role, parent⟩ :: below, fun parents met isParent => ?_, ?_, .cons ?_ isLocal⟩
  · rw [offered, isParent, List.reverse_cons, List.append_assoc]
    rfl
  · rw [List.map_cons, isVisits]
    rfl
  · rw [Sighting.IsAlone, Root.walk, Root.traverse, offered]
    simp [Root.isNode]

end Offers

/-! ## One traversal for each piece of the tree -/

/-- The role that a list of parts leaves. -/
def Role.afterAll (role : Role) (parts : List Part) : Role :=
  if Part.anyTakesRole parts then .nested else role

theorem Role.afterAll_nested (parts : List Part) : Role.nested.afterAll parts = .nested := by
  simp [Role.afterAll]

theorem Role.afterAll_cons (role : Role) (part : Part) (rest : List Part) :
    role.afterAll (part :: rest) = (role.after part).afterAll rest := by
  by_cases takes : part.takesRole = true <;>
    simp [Role.afterAll, Role.after, Part.anyTakesRole, takes]

theorem Offers.ofParts {parent : Option NodeKind} {go : Walker → Walker} {parts : List Part}
    {visits : List Visit} (all : Offers .nested parent go (Role.nested.afterAll parts) visits) :
    Offers .nested parent go .nested visits := by
  rwa [Role.afterAll_nested] at all

mutual

theorem Node.offers (role : Role) (parent : Option NodeKind) : ∀ found : Node,
    Offers role parent found.traverse .nested (⟨found, role, parent⟩ :: found.descendants)
  | .call start callee arguments types => by
      have ⟨left, ofCallee⟩ := callee.offers
      have ⟨_, ofArguments⟩ := Expr.offersArguments 0 left arguments
      have ofTypes := Part.offersAll .nested (some .callExpression) types
      exact .node (.call ⟨start, callee, arguments, types⟩) rfl
        ((ofCallee.slot.andThen ofArguments).andThen ofTypes.slot)
  | .member owner last => by
      have ⟨_, ofName⟩ := last.offers
      exact .node (.member owner last) rfl ((owner.offers ..).slot.andThen ofName.slot)
  | .property key value =>
      .node (.property key value) rfl
        ((key.offers ..).slot.andThen (value.offers ..).slot)
  | .object entries => by
      have ⟨_, ofEntries⟩ := Entry.offersAll 0 .nested entries
      exact .node (.object entries) rfl ofEntries
  | .array elements => by
      have ⟨_, ofElements⟩ := Element.offersAll 0 .nested elements
      exact .node (.array elements) rfl ofElements
  | .identifier name => .offer (.ident name) rfl
  | .string text => .offer (.string text) rfl
  | .boolean value => .offer (.boolean value) rfl
  | .function none flags parameters body => by
      have ofParameters := (Part.offersAll _ (some .functionExpression) parameters).ofParts
      have ofBody := (Part.offersAll _ (some .functionExpression) body).ofParts
      exact .node (.function none flags parameters body) rfl (ofParameters.andThen ofBody)
  | .function (some name) flags parameters body => by
      have ofName : Offers .nested (some .functionExpression) _ _ _ :=
        .offer (.ident name) rfl
      have ofParameters := (Part.offersAll _ (some .functionExpression) parameters).ofParts
      have ofBody := (Part.offersAll _ (some .functionExpression) body).ofParts
      exact .node (.function (some name) flags parameters body) rfl
        ((ofName.andThen ofParameters).andThen ofBody)
  | .arrow isAsync parameters body => by
      have ofParameters := (Part.offersAll _ (some .arrowFunctionExpression) parameters).ofParts
      have ofBody := (Part.offersAll _ (some .arrowFunctionExpression) body).ofParts
      exact .node (.arrow isAsync parameters body) rfl (ofParameters.andThen ofBody)
  | .functionDeclaration name flags parameters body => by
      have ofName : Offers .nested (some .functionDeclaration) _ _ _ :=
        .offer (.ident name) rfl
      have ofParameters := (Part.offersAll _ (some .functionDeclaration) parameters).ofParts
      have ofBody := (Part.offersAll _ (some .functionDeclaration) body).ofParts
      exact .node (.functionDeclaration name flags parameters body) rfl
        (ofName.andThen (ofParameters.andThen ofBody))
  | .variableDeclaration kind declarators =>
      .node (.variableDeclaration kind declarators) rfl
        (Declarator.offersAll declarators)
  | .variableDeclarator declarator => declarator.offers role parent

theorem Expr.offers (role : Role) (parent : Option NodeKind) : ∀ expr : Expr,
    Offers role parent expr.traverse .nested (expr.visits role parent)
  | .node found => found.offers role parent
  | .wrapped _ inner types =>
      (inner.offers .nested parent).slot.andThen (Part.offersAll _ parent types).ofParts
  | .other _ parts => (Part.offersAll _ _ parts).ofParts.slot

theorem Callee.offers : ∀ callee : Callee,
    ∃ left, Offers .callee (some .callExpression) callee.traverse left callee.visits
  | .expr callee => ⟨_, callee.offers ..⟩
  | .superClass => ⟨_, .nothing⟩
  | .moduleImport => ⟨_, .nothing⟩

theorem MemberName.offers : ∀ name : MemberName,
    ∃ left, Offers .property (some .memberExpression) name.traverse left name.visits
  | .name word => ⟨_, .offer (.name word) rfl⟩
  | .privateName _ => ⟨_, .nothing⟩
  | .computed property => ⟨_, property.offers ..⟩

theorem PropertyKey.offers (role : Role) (parent : Option NodeKind) : ∀ key : PropertyKey,
    Offers role parent key.traverse (role.afterKey key) (key.visits role parent)
  | .name word => .offer (.name word) rfl
  | .string text => .offer (.string text) rfl
  | .number _ => .nothing
  | .bigInt => .nothing
  | .computed key => key.offers role parent

theorem Entry.offers (role : Role) : ∀ entry : Entry,
    ∃ left, Offers role (some .objectExpression) entry.traverse left (entry.visits role)
  | .property key value =>
      ⟨_, .node (.property key value) rfl
        ((key.offers ..).slot.andThen (value.offers ..).slot)⟩
  | .shorthand name => by
      have ofKey : Offers .key (some .objectProperty) _ _ _ := .offer (.name name) rfl
      have ofValue : Offers .value (some .objectProperty) _ _ _ :=
        .offer (.ident name) rfl
      exact ⟨_, .node (.property (.name name) (.node (.identifier name))) rfl
        (ofKey.slot.andThen ofValue.slot)⟩
  | .initialized name value =>
      ⟨_, (Offers.offer (.ident name) rfl).andThen (value.offers ..)⟩
  | .method key parts => ⟨_, (key.offers ..).andThen (Part.offersAll _ _ parts)⟩
  | .spread value => ⟨_, value.offers ..⟩

theorem Element.offers (role : Role) : ∀ element : Element,
    ∃ left, Offers role (some .arrayExpression) element.traverse left (element.visits role)
  | .hole => ⟨_, .nothing⟩
  | .value value => ⟨_, value.offers ..⟩
  | .spread value => ⟨_, value.offers ..⟩

theorem Declarator.offers (role : Role) (parent : Option NodeKind) : ∀ declarator : Declarator,
    Offers role parent declarator.traverse .nested
      (⟨.variableDeclarator declarator, role, parent⟩ :: declarator.descendants)
  | .mk target none =>
      .node (.variableDeclarator (.mk target none)) rfl
        (target.offers.andThen .nothing)
  | .mk target (some initial) =>
      .node (.variableDeclarator (.mk target (some initial))) rfl
        (target.offers.andThen (initial.offers ..))

theorem Target.offers : ∀ target : Target,
    Offers .nested (some .variableDeclarator) target.traverse .nested target.visits
  | .name name types =>
      (Offers.offer (.ident name) rfl).andThen (Part.offersAll _ _ types).ofParts
  | .pattern _ parts => (Part.offersAll _ _ parts).ofParts

theorem Part.offers (role : Role) (parent : Option NodeKind) : ∀ part : Part,
    Offers role parent part.traverse (role.after part) (part.visits role parent)
  | .node found => found.offers role parent
  | .name word => .offer (.name word) rfl
  | .expr expr => expr.offers role parent
  | .construct _ parts => Part.offersAll role parent parts

theorem Expr.offersArguments (index : Nat) (role : Role) : ∀ values : List Expr,
    ∃ left, Offers role (some .callExpression) (Expr.traverseArguments index values) left
      (Expr.visitArguments index values)
  | [] => ⟨_, .nothing⟩
  | value :: rest => by
      have ⟨_, behind⟩ := Expr.offersArguments (index + 1) .nested rest
      exact ⟨_, (value.offers ..).slot.andThen behind⟩

theorem Entry.offersAll (index : Nat) (role : Role) : ∀ entries : List Entry,
    ∃ left, Offers role (some .objectExpression) (Entry.traverseAll index entries) left
      (Entry.visitAll index entries)
  | [] => ⟨_, .nothing⟩
  | entry :: rest => by
      have ⟨left, first⟩ := entry.offers (.entry index)
      have ⟨_, behind⟩ := Entry.offersAll (index + 1) left rest
      exact ⟨_, first.slot.andThen behind⟩

theorem Element.offersAll (index : Nat) (role : Role) : ∀ elements : List Element,
    ∃ left, Offers role (some .arrayExpression) (Element.traverseAll index elements) left
      (Element.visitAll index elements)
  | [] => ⟨_, .nothing⟩
  | element :: rest => by
      have ⟨left, first⟩ := element.offers (.element index)
      have ⟨_, behind⟩ := Element.offersAll (index + 1) left rest
      exact ⟨_, first.slot.andThen behind⟩

theorem Declarator.offersAll : ∀ declarators : List Declarator,
    Offers .nested (some .variableDeclaration) (Declarator.traverseAll declarators) .nested
      (Declarator.visitAll declarators)
  | [] => .nothing
  | declarator :: rest => (declarator.offers ..).andThen (Declarator.offersAll rest)

theorem Part.offersAll (role : Role) (parent : Option NodeKind) : ∀ parts : List Part,
    Offers role parent (Part.traverseAll parts) (role.afterAll parts)
      (Part.visitAll role parent parts)
  | [] => .nothing
  | part :: rest => by
      rw [role.afterAll_cons]
      exact (part.offers ..).andThen (Part.offersAll _ parent rest)

end

/-! ## Whole walks -/

theorem View.offers (role : Role) (parent : Option NodeKind) (view : View) :
    Offers role parent view.traverse .nested
      (⟨view.copy, role, parent⟩ :: view.copy.descendants) := by
  cases view with
  | name word => exact .offer (.name word) rfl
  | ident word => exact .offer (.ident word) rfl
  | string text => exact .offer (.string text) rfl
  | boolean value => exact .offer (.boolean value) rfl
  | variableDeclarator declarator => exact declarator.offers role parent
  | _ => exact Node.offers role parent _

namespace Root

/-- The visits of a walk, listed without a walker. -/
def listed : Root → List Visit
  | program found => Part.visitAll .nested none found.items
  | view found => ⟨found.copy, .root, none⟩ :: found.copy.descendants
  | node found => ⟨found, .root, none⟩ :: found.descendants
  | call found => ⟨found.node, .root, none⟩ :: found.node.descendants

theorem offers : ∀ root : Root,
    ∃ left, Offers (if root.isNode then .root else .nested) none root.traverse left root.listed
  | program found => ⟨_, Part.offersAll .nested none found.items⟩
  | view found => ⟨_, found.offers .root none⟩
  | node found => by
      have offered := found.asView.offers .root none
      rw [Node.copy_asView] at offered
      exact ⟨_, offered⟩
  | call found => ⟨_, found.node.offers .root none⟩

theorem walk_spec (root : Root) : root.visits = root.listed ∧ Local root.walk := by
  rcases root.offers with ⟨left, sightings, run, isVisits, isLocal⟩
  have isWalk : root.walk = sightings := by
    rw [walk, run [] [] rfl, List.append_nil, List.reverse_reverse]
  rw [visits, isWalk]
  exact ⟨isVisits, isLocal⟩

end Root

theorem Program.walk_eq (program : Program) :
    program.walk = Part.visitAll .nested none program.items :=
  (Root.program program).walk_spec.1

theorem Node.walk_eq (found : Node) : found.walk = ⟨found, .root, none⟩ :: found.descendants :=
  (Root.node found).walk_spec.1

/-- The start from which the same is visited. -/
def Root.start : Root → Start
  | program found => .program found
  | view found => .node found.copy
  | node found => .node found
  | call found => .node found.node

/-- Copies of what a root offers are what is met from its start. -/
theorem Root.visits_eq (root : Root) : root.visits = root.start.walk := by
  rw [root.walk_spec.1]
  cases root with
  | program found => exact found.walk_eq.symm
  | view found => exact found.copy.walk_eq.symm
  | node found => exact found.walk_eq.symm
  | call found => exact found.node.walk_eq.symm

/-- A search whose condition is about copies finds what the search from the start finds. -/
theorem Root.findWhere_visit (root : Root) (accepts : Visit → Bool) :
    root.findWhere (fun sighting => accepts sighting.visit) = root.start.findWhere accepts := by
  rw [Start.findWhere, ← root.visits_eq, visits, List.filter_map, List.map_map]
  rfl

end DirectiveScan
