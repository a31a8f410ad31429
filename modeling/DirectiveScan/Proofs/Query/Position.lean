import DirectiveScan.Proofs.Query.Slot
import Mathlib.Data.List.Induction

namespace DirectiveScan

/-! The positions of visited nodes.

The main statement is that the position of every visit is exact: its parent is the nearest
node above it, only a start has the role of one, and a node has the role of a slot if and
only if the field of that slot leads to it. -/

/-! ## The nearest node above -/

namespace Start

/-- The nearest of the nodes that an address leads through. -/
structure Above (start : Start) (above address : Address) : Prop where
  isNode : ∃ found, start.NodeAt above found
  leadsOn : above <+: address
  different : above ≠ address
  nearest : ∀ other found, start.NodeAt other found → other <+: address → other ≠ address →
    other <+: above

theorem leadsOn_concat_iff (other address : Address) (index : Nat) :
    other <+: address ++ [index] ∧ other ≠ address ++ [index] ↔ other <+: address := by
  rw [List.prefix_concat_iff]
  constructor
  · rintro ⟨same | leadsOn, different⟩
    · exact absurd same different
    · exact leadsOn
  · intro leadsOn
    refine ⟨.inr leadsOn, fun same => ?_⟩
    have tooLong := leadsOn.length_le
    rw [same, List.length_append, List.length_singleton] at tooLong
    omega

variable {start : Start} {address : Address}

theorem above_concat_of_node {found : Node} (isNode : start.NodeAt address found)
    (above : Address) (index : Nat) : start.Above above (address ++ [index]) ↔ above = address := by
  have self := (leadsOn_concat_iff address address index).mpr List.prefix_rfl
  constructor
  · intro nearest
    have inner := nearest.nearest address found isNode self.1 self.2
    have outer := (leadsOn_concat_iff above address index).mp ⟨nearest.leadsOn, nearest.different⟩
    exact outer.eq_of_length_le inner.length_le
  · intro same
    subst same
    refine ⟨⟨found, isNode⟩, self.1, self.2, ?_⟩
    intro other _ _ leadsOn different
    exact (leadsOn_concat_iff other above index).mp ⟨leadsOn, different⟩

theorem above_concat_of_not_node (noNode : ∀ found, ¬start.NodeAt address found)
    (above : Address) (index : Nat) :
    start.Above above (address ++ [index]) ↔ start.Above above address := by
  have different {other : Address} {found : Node} (isNode : start.NodeAt other found) :
      other ≠ address := fun same => noNode found (same ▸ isNode)
  constructor
  · intro nearest
    rcases nearest.isNode with ⟨found, isNode⟩
    refine ⟨⟨found, isNode⟩, ?_, different isNode, ?_⟩
    · exact (leadsOn_concat_iff above address index).mp ⟨nearest.leadsOn, nearest.different⟩
    · intro other found isNode leadsOn _
      have longer := (leadsOn_concat_iff other address index).mpr leadsOn
      exact nearest.nearest other found isNode longer.1 longer.2
  · intro nearest
    rcases nearest.isNode with ⟨found, isNode⟩
    have longer := (leadsOn_concat_iff above address index).mpr nearest.leadsOn
    refine ⟨⟨found, isNode⟩, longer.1, longer.2, ?_⟩
    intro other found isNode leadsOn longerDifferent
    have shorter := (leadsOn_concat_iff other address index).mp ⟨leadsOn, longerDifferent⟩
    exact nearest.nearest other found isNode shorter (different isNode)

theorem reach_concat_eq_some {index : Nat} {piece : Piece} {reached : Standing}
    (holds : start.reach (address ++ [index]) = some (piece, reached)) :
    ∃ outer standing, start.reach address = some (outer, standing) ∧
      outer.children[index]? = some piece ∧ reached = outer.handDown standing index := by
  rw [reach, Piece.reach_concat, Option.bind_eq_some_iff] at holds
  rcases holds with ⟨⟨outer, standing⟩, isOuter, isChild⟩
  rcases Option.map_eq_some_iff.mp isChild with ⟨child, found, same⟩
  cases same
  exact ⟨outer, standing, isOuter, found, rfl⟩

/-- What is handed down as the nearest node above is the nearest node above. -/
theorem above_eq_some_iff {piece : Piece} {reached : Standing}
    (holds : start.reach address = some (piece, reached)) (above : Address) (found : Node) :
    reached.above = some (above, found) ↔
      start.Above above address ∧ start.NodeAt above found := by
  induction address using List.reverseRecOn generalizing piece reached with
  | nil =>
      cases holds
      constructor
      · intro none
        cases none
      · rintro ⟨nearest, _⟩
        exact absurd (List.prefix_nil.mp nearest.leadsOn) nearest.different
  | append_singleton address index induction =>
      rcases reach_concat_eq_some holds with ⟨outer, standing, isOuter, _, rfl⟩
      cases outer with
      | node around =>
          have isNode : start.NodeAt address around :=
            (start.nodeAt_iff_reach address around).mpr ⟨standing, isOuter⟩
          have here : standing.here = address := here_of_reach isOuter
          rw [above_concat_of_node isNode, Piece.handDown, Piece.aboveBelow, here]
          constructor
          · intro same
            cases same
            exact ⟨rfl, isNode⟩
          · rintro ⟨rfl, isFound⟩
            cases isNode.symm.trans isFound
            rfl
      | _ =>
          have noNode (other : Node) : ¬start.NodeAt address other := by
            intro isNode
            rcases (start.nodeAt_iff_reach address other).mp isNode with ⟨_, isOther⟩
            cases isOuter.symm.trans isOther
          rw [above_concat_of_not_node noNode]
          change standing.above = some (above, found) ↔ _
          exact induction isOuter

end Start

/-! ## The role of a start -/

theorem Node.roleAt_ne_root (found : Node) (index : Nat) : found.roleAt index ≠ .root := by
  cases found <;> cases index <;> simp only [Node.roleAt] <;> (try split) <;> simp

namespace Start

variable {start : Start} {address : Address}

theorem role_eq_root_iff {piece : Piece} {reached : Standing}
    (holds : start.reach address = some (piece, reached)) :
    reached.role = .root ↔ start.isNode = true ∧ address = [] := by
  induction address using List.reverseRecOn generalizing piece reached with
  | nil =>
      cases holds
      cases start <;> simp [standing, isNode]
  | append_singleton address index induction =>
      rcases reach_concat_eq_some holds with ⟨outer, standing, isOuter, _, rfl⟩
      refine ⟨fun isRoot => ?_, by simp⟩
      exfalso
      cases own : outer.own with
      | cons found _ =>
          cases outer with
          | node around => exact Node.roleAt_ne_root around index isRoot
          | _ => cases own
      | nil =>
          rcases Piece.roleAt_of_own_eq_nil own standing.role index with kept | nested
          · rcases (induction isOuter).mp (kept ▸ isRoot) with ⟨isNode, rfl⟩
            cases isOuter
            cases start with
            | program found => cases isNode
            | node found => cases own
          · rw [Piece.handDown, nested] at isRoot
            cases isRoot

end Start

/-- One step down from a node. -/
theorem Start.reach_below {start : Start} {address : Address} {found : Node}
    {standing : Standing} (isNode : start.reach address = some (.node found, standing))
    (index : Nat) (rest : Address) : start.reach (address ++ index :: rest) =
      found.pieces[index]?.bind
        (·.reach ⟨address ++ [index], found.roleAt index, some (address, found)⟩ rest) := by
  have here := here_of_reach isNode
  rw [reach, Piece.reach_append, ← reach, isNode]
  change (found.pieces[index]?.bind
    (·.reach ((Piece.node found).handDown standing index) rest)) = _
  rw [Piece.handDown, here, Piece.aboveBelow, here]
  rfl

theorem Standing.fresh_below (address : Address) (found : Node) (index : Nat) (role : Role) :
    (Standing.mk (address ++ [index]) role (some (address, found))).Fresh := by
  intro above isAbove
  cases isAbove
  simp

/-- What fills a slot of a node is exactly what has the role of the slot and the node as
the nearest one above. -/
theorem Start.reach_slot_iff {start : Start} {address : Address} {found : Node}
    {standing : Standing} (isNode : start.reach address = some (.node found, standing))
    (slot : Slot) (below : Address) (held : Node) :
    start.reach below = some (.node held, ⟨below, slot.role, some (address, found)⟩) ↔
      ∃ piece way, found.inSlot? slot = some piece ∧ piece.filling? = some (way, held) ∧
        below = address ++ slot.index :: way := by
  have step := reach_below isNode
  have fresh := Standing.fresh_below address found
  constructor
  · intro holds
    have nearest := ((above_eq_some_iff holds address found).mp rfl).1
    rcases nearest.leadsOn with ⟨rest, rfl⟩
    cases rest with
    | nil => exact absurd (List.append_nil address).symm nearest.different
    | cons index rest =>
        rw [step] at holds
        rcases Option.bind_eq_some_iff.mp holds with ⟨piece, isPiece, holds⟩
        have sameRole : found.roleAt index = slot.role := by
          rcases Piece.role_of_reach (fresh index _) holds rfl with same | nested
          · exact same.symm
          · exact absurd nested slot.role_ne_nested
        rcases (found.inSlot?_eq_some_iff slot piece index).mp ⟨isPiece, sameRole⟩
          with ⟨isInSlot, rfl⟩
        rw [sameRole, List.append_cons address slot.index rest] at holds
        have filled := Node.filledExactly_of_inSlot? isInSlot
        exact ⟨piece, rest, isInSlot,
          (filled _ rest held (fresh _ _) slot.role_ne_nested).mp holds, rfl⟩
  · rintro ⟨piece, way, isInSlot, isFilling, rfl⟩
    rcases (found.inSlot?_eq_some_iff slot piece slot.index).mpr ⟨isInSlot, rfl⟩
      with ⟨isPiece, sameRole⟩
    have filled := Node.filledExactly_of_inSlot? isInSlot
    rw [step, isPiece, sameRole, List.append_cons address slot.index way]
    exact (filled _ way held (fresh _ _) slot.role_ne_nested).mpr isFilling

/-! ## The main statement -/

namespace Start

variable {start : Start} {address below : Address} {found : Node} {visit : Visit}

/-- A walk meets a node at an address. -/
def Offers (start : Start) (address : Address) (visit : Visit) : Prop :=
  (address, visit) ∈ start.addresses.zip start.walk

theorem offers_iff (start : Start) (address : Address) (visit : Visit) :
    start.Offers address visit ↔
      ∃ reached, start.reach address = some (.node visit.node, reached) ∧
        visit = reached.visit visit.node := by
  have ⟨lengths, related⟩ := List.forall₂_iff_zip.mp start.forall₂_walk
  constructor
  · exact related
  · rintro ⟨reached, holds, isVisit⟩
    have isNode : start.NodeAt address visit.node :=
      (start.nodeAt_iff_reach address visit.node).mpr ⟨reached, holds⟩
    have member := (start.mem_addresses_iff address).mpr ⟨_, isNode⟩
    rcases List.getElem_of_mem member with ⟨place, bound, isAddress⟩
    have boundWalk : place < start.walk.length := lengths ▸ bound
    have met : start.Offers address start.walk[place] := by
      have isPair : (start.addresses.zip start.walk)[place]? =
          some (address, start.walk[place]) := by
        rw [List.getElem?_zip_eq_some]
        exact ⟨isAddress ▸ List.getElem?_eq_getElem bound, List.getElem?_eq_getElem boundWalk⟩
      exact List.mem_of_getElem? isPair
    -- What the walk meets at the address is the visit.
    rcases related met with ⟨other, holdsOther, isOther⟩
    have ⟨sameNode, sameStanding⟩ := Prod.mk.inj (Option.some.inj (holds.symm.trans holdsOther))
    have same : visit = start.walk[place] := calc
      visit = reached.visit visit.node := isVisit
      _ = other.visit start.walk[place].node := by rw [Piece.node.inj sameNode, sameStanding]
      _ = start.walk[place] := isOther.symm
    exact same ▸ met

theorem nodeAt_iff_offers (start : Start) (address : Address) (found : Node) :
    start.NodeAt address found ↔ ∃ visit, start.Offers address visit ∧ visit.node = found := by
  rw [nodeAt_iff_reach]
  simp only [offers_iff]
  constructor
  · intro ⟨reached, holds⟩
    exact ⟨reached.visit found, ⟨reached, holds, rfl⟩, rfl⟩
  · intro ⟨visit, ⟨reached, holds, _⟩, isFound⟩
    exact ⟨reached, isFound ▸ holds⟩

/-- A walk meets only one node at an address. -/
theorem Offers.unique {start : Start} {address : Address} {left right : Visit}
    (offersLeft : start.Offers address left) (offersRight : start.Offers address right) :
    left = right := by
  rcases (start.offers_iff address left).mp offersLeft with ⟨standing, isLeft, leftVisit⟩
  rcases (start.offers_iff address right).mp offersRight with ⟨other, isRight, rightVisit⟩
  have ⟨sameNode, sameStanding⟩ := Prod.mk.inj (Option.some.inj (isLeft.symm.trans isRight))
  rw [leftVisit, rightVisit, Piece.node.inj sameNode, sameStanding]

theorem map_fst_occurrences (start : Start) :
    (start.addresses.zip start.walk).map Prod.fst = start.addresses :=
  List.map_fst_zip (Nat.le_of_eq start.forall₂_walk.length_eq)

theorem map_snd_occurrences (start : Start) :
    (start.addresses.zip start.walk).map Prod.snd = start.walk :=
  List.map_snd_zip (Nat.le_of_eq start.forall₂_walk.length_eq.symm)

/-- Occurrences in the order of their addresses. -/
def Precedes (left right : Address × Visit) : Prop := left.1 < right.1

theorem pairwise_occurrences (start : Start) :
    (start.addresses.zip start.walk).Pairwise Precedes := by
  have ordered := start.piece.pairwise_addresses
  change start.addresses.Pairwise (· < ·) at ordered
  rw [← map_fst_occurrences, List.pairwise_map] at ordered
  exact ordered

theorem nodup_occurrences (start : Start) : (start.addresses.zip start.walk).Nodup := by
  refine start.pairwise_occurrences.imp ?_
  intro left right before same
  exact List.lt_irrefl right.1 (same ▸ before)

/-- The visits whose nearest node above stands at an address. -/
theorem offers_below_iff (isNode : start.NodeAt address found) :
    start.Offers below visit ∧ start.Above address below ↔
      start.reach below =
          some (.node visit.node, ⟨below, visit.role, some (address, found)⟩) ∧
        visit.parent = some found.kind := by
  rw [offers_iff]
  constructor
  · rintro ⟨⟨⟨here, role, above⟩, holds, isVisit⟩, nearest⟩
    have isBelow : here = below := here_of_reach holds
    have isAbove : above = some (address, found) :=
      (above_eq_some_iff holds address found).mpr ⟨nearest, isNode⟩
    subst isBelow isAbove
    rw [isVisit]
    exact ⟨holds, rfl⟩
  · rintro ⟨holds, isParent⟩
    refine ⟨⟨_, holds, ?_⟩, ((above_eq_some_iff holds address found).mp rfl).1⟩
    rcases visit with ⟨held, role, parent⟩
    cases isParent
    rfl

/-- What the position of a visit says about the tree. -/
structure ExactPosition (start : Start) (address : Address) (visit : Visit) : Prop where
  isNode : start.NodeAt address visit.node
  /-- The parent is the nearest node above. -/
  parent : ∀ kind, visit.parent = some kind ↔
    ∃ above found, start.Above above address ∧ start.NodeAt above found ∧ found.kind = kind
  /-- Only a start has the role of one. -/
  root : visit.role = .root ↔ start.isNode = true ∧ address = []
  /-- The path of a slot leads to what the walk meets in the slot. -/
  slots : ∀ slot : Slot, slot.FitsWord → ∀ held,
    (visit.node.deepField? slot.path = some (.node held) ↔
      ∃ below, start.Offers below ⟨held, slot.role, some visit.node.kind⟩ ∧
        start.Above address below)
  /-- A walk meets no two nodes in one slot. -/
  single : ∀ (slot : Slot) left right leftVisit rightVisit,
    start.Offers left leftVisit → start.Above address left → leftVisit.role = slot.role →
    start.Offers right rightVisit → start.Above address right → rightVisit.role = slot.role →
    left = right
  /-- The arguments are the nodes in the list of arguments of the nearest node above. The
  callee is the first piece of a call, and its arguments follow. -/
  argument : visit.isCallArgument = true ↔
    ∃ above call items index, start.Above above address ∧ start.NodeAt above call ∧
      call.deepField? "arguments" = some (.list items) ∧
      items[index]? = some (.node visit.node) ∧ address = above ++ [index + 1, 0]

theorem parent_eq_some_iff (offers : start.Offers address visit) (kind : NodeKind) :
    visit.parent = some kind ↔
      ∃ above found, start.Above above address ∧ start.NodeAt above found ∧ found.kind = kind := by
  rcases (start.offers_iff address visit).mp offers with ⟨reached, holds, isVisit⟩
  have isParent : visit.parent = reached.parent := congrArg Visit.parent isVisit
  rw [isParent, Standing.parent, Option.map_eq_some_iff]
  constructor
  · rintro ⟨⟨above, found⟩, isAbove, sameKind⟩
    have ⟨nearest, isFound⟩ := (above_eq_some_iff holds above found).mp isAbove
    exact ⟨above, found, nearest, isFound, sameKind⟩
  · rintro ⟨above, found, nearest, isFound, sameKind⟩
    exact ⟨(above, found), (above_eq_some_iff holds above found).mpr ⟨nearest, isFound⟩, sameKind⟩

theorem deepField?_slot_iff (isNode : start.NodeAt address found) {slot : Slot}
    (fits : slot.FitsWord) (held : Node) :
    found.deepField? slot.path = some (.node held) ↔
      ∃ below, start.Offers below ⟨held, slot.role, some found.kind⟩ ∧
        start.Above address below := by
  rcases (start.nodeAt_iff_reach address found).mp isNode with ⟨standing, reached⟩
  simp only [offers_below_iff isNode, reach_slot_iff reached, and_true]
  rw [found.deepField?_slot_eq_node_iff fits]
  constructor
  · rintro ⟨piece, way, isInSlot, isFilling⟩
    exact ⟨_, piece, way, isInSlot, isFilling, rfl⟩
  · rintro ⟨_, piece, way, isInSlot, isFilling, rfl⟩
    exact ⟨piece, way, isInSlot, isFilling⟩

theorem eq_of_same_slot (isNode : start.NodeAt address found) {slot : Slot}
    {left right : Address} {leftVisit rightVisit : Visit}
    (offersLeft : start.Offers left leftVisit) (aboveLeft : start.Above address left)
    (inSlotLeft : leftVisit.role = slot.role)
    (offersRight : start.Offers right rightVisit) (aboveRight : start.Above address right)
    (inSlotRight : rightVisit.role = slot.role) : left = right := by
  rcases (start.nodeAt_iff_reach address found).mp isNode with ⟨standing, reached⟩
  have reachLeft := ((offers_below_iff isNode).mp ⟨offersLeft, aboveLeft⟩).1
  have reachRight := ((offers_below_iff isNode).mp ⟨offersRight, aboveRight⟩).1
  rw [inSlotLeft, reach_slot_iff reached] at reachLeft
  rw [inSlotRight, reach_slot_iff reached] at reachRight
  rcases reachLeft with ⟨piece, way, isInSlot, isFilling, rfl⟩
  rcases reachRight with ⟨other, otherWay, otherInSlot, otherFilling, rfl⟩
  cases isInSlot.symm.trans otherInSlot
  have sameWay := (Prod.mk.inj (Option.some.inj (isFilling.symm.trans otherFilling))).1
  rw [sameWay]

/-- What fills the slot of an argument is the argument itself. -/
theorem filling_argument_iff (call held : Node) (index : Nat) (way : Address) :
    (∃ piece, call.inSlot? (.argument index) = some piece ∧ piece.filling? = some (way, held)) ↔
      ∃ items, call.deepField? "arguments" = some (.list items) ∧
        items[index]? = some (.node held) ∧ way = [0] := by
  rw [call.deepField?_word (by decide) (by decide)]
  simp only [Node.ownField?_arguments_eq_some_iff]
  cases call with
  | call offset callee arguments types =>
      simp only [Node.inSlot?, Option.map_eq_some_iff]
      constructor
      · rintro ⟨_, ⟨value, isValue, rfl⟩, isFilling⟩
        cases value with
        | node held =>
            cases isFilling
            refine ⟨_, ⟨offset, callee, arguments, types, rfl, rfl⟩, ?_, rfl⟩
            rw [List.getElem?_map, isValue]
            rfl
        | _ => cases isFilling
      · rintro ⟨items, ⟨_, _, _, _, same, isItems⟩, isItem, rfl⟩
        cases same
        cases isItems
        rw [List.getElem?_map, Option.map_eq_some_iff] at isItem
        rcases isItem with ⟨value, isValue, isNode⟩
        cases (Field.ofExpr_eq_node_iff value held).mp isNode
        exact ⟨_, ⟨_, isValue, rfl⟩, rfl⟩
  | _ => simp [Node.inSlot?]

theorem isCallArgument_iff (offers : start.Offers address visit) :
    visit.isCallArgument = true ↔
      ∃ above call items index, start.Above above address ∧ start.NodeAt above call ∧
        call.deepField? "arguments" = some (.list items) ∧
        items[index]? = some (.node visit.node) ∧ address = above ++ [index + 1, 0] := by
  constructor
  · intro isArgument
    have position : ∃ index, visit.role = .argument index ∧
        visit.parent = some .callExpression := by
      unfold Visit.isCallArgument at isArgument
      split at isArgument
      · next index isRole => exact ⟨index, isRole, of_decide_eq_true isArgument⟩
      · cases isArgument
    rcases position with ⟨index, isRole, isParent⟩
    rcases (parent_eq_some_iff offers _).mp isParent with ⟨above, call, nearest, isCall, _⟩
    rcases (start.nodeAt_iff_reach above call).mp isCall with ⟨standing, reached⟩
    have holds := ((offers_below_iff isCall).mp ⟨offers, nearest⟩).1
    rw [isRole] at holds
    rcases (reach_slot_iff reached (.argument index) address visit.node).mp holds
      with ⟨piece, way, isInSlot, isFilling, isAddress⟩
    rcases (filling_argument_iff call visit.node index way).mp ⟨piece, isInSlot, isFilling⟩
      with ⟨items, isItems, isItem, rfl⟩
    exact ⟨above, call, items, index, nearest, isCall, isItems, isItem, isAddress⟩
  · rintro ⟨above, call, items, index, nearest, isCall, isItems, isItem, isAddress⟩
    rcases (start.nodeAt_iff_reach above call).mp isCall with ⟨standing, reached⟩
    rcases (filling_argument_iff call visit.node index [0]).mpr ⟨items, isItems, isItem, rfl⟩
      with ⟨piece, isInSlot, isFilling⟩
    have holds := (reach_slot_iff reached (.argument index) address visit.node).mpr
      ⟨piece, [0], isInSlot, isFilling, isAddress⟩
    rcases (start.offers_iff address visit).mp offers with ⟨_, met, isVisit⟩
    cases met.symm.trans holds
    have isKind : call.kind = .callExpression := by
      cases call with
      | call => rfl
      | _ => cases isInSlot
    rw [isVisit]
    exact decide_eq_true (congrArg some isKind)

/-- The position of every visit of a walk is exact. -/
theorem positions_exact (start : Start) :
    List.Forall₂ start.ExactPosition start.addresses start.walk := by
  refine List.forall₂_iff_zip.mpr ⟨start.forall₂_walk.length_eq, ?_⟩
  intro address visit offers
  rcases (start.offers_iff address visit).mp offers with ⟨reached, holds, isVisit⟩
  have isNode : start.NodeAt address visit.node :=
    (start.nodeAt_iff_reach address visit.node).mpr ⟨reached, holds⟩
  have isRole : visit.role = reached.role := congrArg Visit.role isVisit
  exact {
    isNode := isNode
    parent := parent_eq_some_iff offers
    root := isRole ▸ role_eq_root_iff holds
    slots := fun _ fits held => deepField?_slot_iff isNode fits held
    single := fun _ _ _ _ _ => eq_of_same_slot isNode
    argument := isCallArgument_iff offers }

end Start

end DirectiveScan
