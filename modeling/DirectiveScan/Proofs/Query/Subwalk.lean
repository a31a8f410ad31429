import DirectiveScan.Proofs.Directive.InPlace
import DirectiveScan.Proofs.Query.Standing
import Mathlib.Data.List.Nodup

namespace DirectiveScan

/-! Walks that start inside of other walks.

What is offered below a node does not depend on the way to the node. The main statement is
that the walk from a node is a block of every walk that offers the node, whether it starts
from the node itself, from an owned copy or from the call that the node is, and that searches
and readings of directives find in the block what they find from the node alone. -/

/-! ## Blocks of lists -/

/-- The lists of values in their order, cut around the list of one value. -/
private theorem flatten_mapIdx_eq {α β : Type} (list : Nat → α → List β) {values : List α}
    {index : Nat} {value : α} (isValue : values[index]? = some value) :
    (values.mapIdx list).flatten =
      ((values.mapIdx list).take index).flatten ++
        (list index value ++ ((values.mapIdx list).drop (index + 1)).flatten) := by
  rcases List.getElem?_eq_some_iff.mp isValue with ⟨bound, rfl⟩
  have isList : (values.mapIdx list).drop index =
      list index values[index] :: (values.mapIdx list).drop (index + 1) := by
    rw [List.drop_eq_getElem_cons (by simpa using bound), List.getElem_mapIdx]
  rw [← List.flatten_cons, ← isList, ← List.flatten_append, List.take_append_drop]

/-- In a list without repetition, the places of a block hold exactly the members of it. -/
private theorem mem_block_iff {α : Type} {left block right : List α}
    (nodup : (left ++ (block ++ right)).Nodup) {place : Nat} {value : α}
    (isValue : (left ++ (block ++ right))[place]? = some value) :
    value ∈ block ↔ left.length ≤ place ∧ place < left.length + block.length := by
  constructor
  · intro member
    rcases List.getElem_of_mem member with ⟨index, bound, isMember⟩
    have inBlock : (left ++ (block ++ right))[left.length + index]? = some value := by
      rw [List.getElem?_append_right (Nat.le_add_right ..), Nat.add_sub_cancel_left,
        List.getElem?_append_left bound, List.getElem?_eq_getElem bound, isMember]
    have samePlace : place = left.length + index :=
      (List.getElem?_inj (List.getElem?_eq_some_iff.mp isValue).1 nodup).mp
        (isValue.trans inBlock.symm)
    omega
  · rintro ⟨notBefore, notAfter⟩
    rw [List.getElem?_append_right notBefore, List.getElem?_append_left (by omega)] at isValue
    exact List.mem_of_getElem? isValue

/-! ## The addresses below a node -/

namespace Piece

/-- The addresses in a piece inside of another one are a block of the addresses. -/
theorem block_of_at? {piece inner : Piece} {address : Address}
    (isInner : piece.at? address = some inner) :
    ∃ left right, piece.addresses = left ++ (inner.addresses.map (address ++ ·) ++ right) := by
  induction address generalizing piece with
  | nil =>
      cases isInner
      exact ⟨[], [], by simp⟩
  | cons index rest induction =>
      rcases Option.bind_eq_some_iff.mp isInner with ⟨child, isChild, below⟩
      rcases induction below with ⟨left, right, isBlock⟩
      let listed (index : Nat) (child : Piece) : List Address := child.addresses.map (index :: ·)
      have isListed : listed index child = left.map (index :: ·) ++
          (inner.addresses.map (index :: rest ++ ·) ++ right.map (index :: ·)) := by
        change child.addresses.map (index :: ·) = _
        rw [isBlock, List.map_append, List.map_append, List.map_map]
        rfl
      refine ⟨piece.own.map (fun _ => []) ++
          (((piece.children.mapIdx listed).take index).flatten ++ left.map (index :: ·)),
        right.map (index :: ·) ++ ((piece.children.mapIdx listed).drop (index + 1)).flatten, ?_⟩
      rw [addresses_eq, flatten_mapIdx_eq listed isChild, isListed]
      simp only [List.append_assoc]

/-- The addresses behind an address are those in the piece that stands there. -/
theorem mem_map_addresses_iff {piece inner : Piece} {address other : Address}
    (isInner : piece.at? address = some inner) (member : other ∈ piece.addresses) :
    other ∈ inner.addresses.map (address ++ ·) ↔ address <+: other := by
  rw [List.mem_map]
  constructor
  · rintro ⟨rest, _, rfl⟩
    exact List.prefix_append address rest
  · rintro ⟨rest, rfl⟩
    refine ⟨rest, ?_, rfl⟩
    rcases (piece.mem_addresses_iff _).mp member with ⟨found, holds⟩
    rw [at?_append, isInner] at holds
    exact (inner.mem_addresses_iff rest).mpr ⟨found, holds⟩

end Piece

namespace Start

variable {start : Start}

/-- An address has only one place in the list. -/
theorem place_unique {left right : Nat} {address : Address}
    (isLeft : start.addresses[left]? = some address)
    (isRight : start.addresses[right]? = some address) : left = right := by
  have bound := (List.getElem?_eq_some_iff.mp isLeft).1
  exact (List.getElem?_inj bound start.piece.nodup_addresses).mp (isLeft.trans isRight.symm)

/-- The addresses behind that of a node follow right after it, one for each node below it. -/
theorem inside_iff {found : Node} {address other : Address} {place index : Nat}
    (isNode : start.NodeAt address found) (isAddress : start.addresses[place]? = some address)
    (isOther : start.addresses[index]? = some other) :
    address <+: other ∧ address ≠ other ↔
      place < index ∧ index ≤ place + found.descendants.length := by
  rcases Piece.block_of_at? isNode with ⟨left, right, isBlock⟩
  have isPlace : left.length = place := by
    have isStart : start.addresses[left.length]? = some address := by
      rw [addresses, isBlock, List.getElem?_append_right (Nat.le_refl _), Nat.sub_self,
        Piece.addresses_eq]
      exact congrArg some (List.append_nil address)
    exact place_unique isStart isAddress
  have size : (Piece.node found).addresses.length = found.descendants.length + 1 :=
    ((Piece.node found).forall₂_visits start.standing).length_eq
  have inBlock : address <+: other ↔
      place ≤ index ∧ index < place + (found.descendants.length + 1) := by
    have nodup : start.addresses.Nodup := start.piece.nodup_addresses
    rw [← Piece.mem_map_addresses_iff isNode (List.mem_of_getElem? isOther)]
    rw [addresses, isBlock] at nodup isOther
    rw [mem_block_iff nodup isOther, List.length_map, size, isPlace]
  have different : address ≠ other ↔ place ≠ index := by
    refine not_congr ⟨fun same => ?_, fun same => ?_⟩
    · exact place_unique isAddress (same ▸ isOther)
    · exact Option.some.inj (isAddress.symm.trans (same ▸ isOther))
  rw [inBlock, different]
  omega

end Start

/-! ## Walks from a node -/

namespace Sighting

variable {sighting : Sighting} {below : List Sighting}

/-- Alone, a node has as many nodes below it as the walk lists. -/
theorem length_of_isAlone (alone : sighting.IsAlone below) :
    below.length = sighting.view.copy.descendants.length := by
  have listed := (Root.view sighting.view).walk_spec.1
  rw [Root.visits, alone, Root.listed, List.map_cons, List.cons.injEq] at listed
  rw [← listed.2, List.length_map]

/-- From an owned copy the same is offered below the node. -/
theorem walk_copy_of_isAlone (alone : sighting.IsAlone below) :
    (Root.node sighting.view.copy).walk = ⟨sighting.view.copy.asView, .root, none⟩ :: below := by
  have isWalk : (Root.node sighting.view.copy).walk =
      (Root.view sighting.view.copy.asView).walk := rfl
  rw [isWalk]
  rcases sighting.view.asView_copy with same | ⟨word, isVariable, isName⟩
  · rw [same]
    exact alone
  · -- Nothing is below a variable, and nothing below a name.
    have nothing : below = [] := by
      refine List.length_eq_zero_iff.mp ((length_of_isAlone alone).trans ?_)
      rw [isVariable]
      rfl
    rw [isName, nothing]
    rfl

theorem walk_call_of_isAlone (alone : sighting.IsAlone below) {call : Call}
    (isCall : sighting.view = .call call) :
    (Root.call call).walk = ⟨.call call, .root, none⟩ :: below := by
  rw [IsAlone, isCall] at alone
  exact alone

end Sighting

namespace Root

/-- The walk from a node that a walk offers is a block of this walk. -/
structure Subwalk (root : Root) (place : Nat) (address : Address) (sighting : Sighting)
    (before below after : List Sighting) : Prop where
  isAddress : root.start.addresses[place]? = some address
  isPlace : before.length = place
  isBlock : root.walk = before ++ (sighting :: below ++ after)
  /-- The block holds exactly what stands below the node. -/
  isInside : ∀ other otherAddress, root.start.addresses[other]? = some otherAddress →
    (address <+: otherAddress ∧ address ≠ otherAddress ↔
      place < other ∧ other ≤ place + below.length)
  /-- Alone, the node is a start without a parent, and all the rest is the same. -/
  alone : (view sighting.view).walk = ⟨sighting.view, .root, none⟩ :: below
  /-- So it is from the owned copy of the node. -/
  owned : (node sighting.view.copy).walk = ⟨sighting.view.copy.asView, .root, none⟩ :: below
  /-- So it is from the call that the node is. -/
  called : ∀ found, sighting.view = .call found →
    (call found).walk = ⟨sighting.view, .root, none⟩ :: below
  /-- The copy is the node, but for variables, which become names. -/
  isCopy : sighting.view.copy.asView = sighting.view ∨
    ∃ word, sighting.view = .ident word ∧ sighting.view.copy.asView = .name word
  sameKind : sighting.view.copy.kind = sighting.view.kind
  /-- The copy answers every path like the node. -/
  sameFields : ∀ path, sighting.view.copy.asView.deepField? path = sighting.view.deepField? path
  /-- A search that accepts the node returns the copy. -/
  isFound : ∀ accepts : Sighting → Bool, accepts sighting = true →
    (root.findWhere accepts)[(before.filter accepts).length]? = some sighting.view.copy
  /-- The directives in the node are read from the copy as they are read in place. -/
  readings : Directive.readIn root =
    before.filterMap Directive.readSighting? ++
      (Directive.readIn (node sighting.view.copy) ++ after.filterMap Directive.readSighting?)
  /-- A registration is read from its copy as it is read in place. -/
  reading : Directive.isRegistration sighting.view.copy = true →
    (Directive.readIn root)[(before.filterMap Directive.readSighting?).length]? =
      some (Directive.read sighting.view.copy)

variable {root : Root} {before below after : List Sighting} {sighting : Sighting}

theorem findWhere_getElem?_of_block (isBlock : root.walk = before ++ (sighting :: below ++ after))
    {accepts : Sighting → Bool} (accepted : accepts sighting = true) :
    (root.findWhere accepts)[(before.filter accepts).length]? = some sighting.view.copy := by
  rw [findWhere, isBlock, List.filter_append, List.cons_append, List.filter_cons,
    if_pos accepted, List.map_append, List.getElem?_append_right (by simp), List.length_map,
    Nat.sub_self]
  rfl

theorem readIn_of_block (isBlock : root.walk = before ++ (sighting :: below ++ after))
    (alone : sighting.IsAlone below) :
    Directive.readIn root = before.filterMap Directive.readSighting? ++
      (Directive.readIn (node sighting.view.copy) ++
        after.filterMap Directive.readSighting?) := by
  have sameReading : Directive.readSighting? ⟨sighting.view.copy.asView, .root, none⟩ =
      Directive.readSighting? sighting :=
    Directive.readSighting?_congr sighting.view.copy.copy_asView
  have ofCopy : Directive.readIn (node sighting.view.copy) =
      (sighting :: below).filterMap Directive.readSighting? := by
    rw [Directive.readIn, Sighting.walk_copy_of_isAlone alone, List.filterMap_cons, sameReading,
      List.filterMap_cons]
  rw [ofCopy, Directive.readIn, isBlock, List.filterMap_append, List.filterMap_append]

theorem readIn_getElem?_of_block (isBlock : root.walk = before ++ (sighting :: below ++ after))
    (registers : Directive.isRegistration sighting.view.copy = true) :
    (Directive.readIn root)[(before.filterMap Directive.readSighting?).length]? =
      some (Directive.read sighting.view.copy) := by
  have isRead : Directive.readSighting? sighting = some (Directive.read sighting.view.copy) := by
    rw [Directive.readSighting?_eq]
    exact if_pos registers
  rw [Directive.readIn, isBlock, List.filterMap_append,
    List.getElem?_append_right (Nat.le_refl _), Nat.sub_self, List.cons_append,
    List.filterMap_cons_some isRead]
  rfl

/-- Every node that a walk offers has its own walk as a block of this walk. -/
theorem subwalks_local (root : Root) (place : Fin root.walk.length) :
    ∃ address before below after,
      root.Subwalk place address root.walk[place] before below after := by
  let sighting := root.walk[place]
  have isSplit : root.walk =
      root.walk.take place ++ sighting :: root.walk.drop (place + 1) := by
    have isDrop : sighting :: root.walk.drop (place + 1) = root.walk.drop place :=
      (List.drop_eq_getElem_cons place.isLt).symm
    rw [isDrop, List.take_append_drop]
  rcases root.walk_spec.2 _ _ _ isSplit with ⟨below, after, isRest, alone⟩
  have isBlock : root.walk = root.walk.take place ++ (sighting :: below ++ after) := by
    rw [List.cons_append, ← isRest]
    exact isSplit
  -- The sighting stands for the node at the address of the same place.
  have ⟨lengths, related⟩ := List.forall₂_iff_zip.mp root.start.forall₂_walk
  have isVisit : root.start.walk[place.val]? = some sighting.visit := by
    rw [← root.visits_eq, visits, List.getElem?_map, List.getElem?_eq_getElem place.isLt]
    rfl
  have bound : place.val < root.start.addresses.length := by
    rw [lengths]
    exact (List.getElem?_eq_some_iff.mp isVisit).1
  let address := root.start.addresses[place.val]
  have isAddress : root.start.addresses[place.val]? = some address :=
    List.getElem?_eq_getElem bound
  have offered : (address, sighting.visit) ∈ root.start.addresses.zip root.start.walk :=
    List.mem_of_getElem? (List.getElem?_zip_eq_some.mpr ⟨isAddress, isVisit⟩)
  rcases related offered with ⟨reached, holds, _⟩
  have isNode : root.start.NodeAt address sighting.view.copy :=
    (root.start.nodeAt_iff_reach address sighting.view.copy).mpr ⟨reached, holds⟩
  exact ⟨address, root.walk.take place, below, after, {
    isAddress := isAddress
    isPlace := List.length_take_of_le (Nat.le_of_lt place.isLt)
    isBlock := isBlock
    isInside := by
      intro other otherAddress isOther
      rw [Sighting.length_of_isAlone alone]
      exact Start.inside_iff isNode isAddress isOther
    alone := alone
    owned := Sighting.walk_copy_of_isAlone alone
    called := by
      intro found isCall
      rw [isCall]
      exact Sighting.walk_call_of_isAlone alone isCall
    isCopy := sighting.view.asView_copy
    sameKind := sighting.view.kind_copy
    sameFields := sighting.view.deepField?_asView_copy
    isFound := fun _ => findWhere_getElem?_of_block isBlock
    readings := readIn_of_block isBlock alone
    reading := readIn_getElem?_of_block isBlock }⟩

end Root

end DirectiveScan
