import DirectiveScan.Proofs.Query.Occurrence

namespace DirectiveScan

/-! Addresses of the pieces of a tree.

Two nodes that are equal may stand at different places of a tree, so a place is named by
the way that leads to it. The addresses of the nodes are listed without repetition and in
lexicographic order, in which a node comes before everything inside of it, and everything
inside of it comes before what stands to its right. -/

/-- The way down to a piece: which of the immediate pieces to take at every step. -/
abbrev Address := List Nat

namespace Piece

/-- The piece at an address. -/
def at? (piece : Piece) : Address → Option Piece
  | [] => some piece
  | index :: rest => piece.children[index]?.bind (·.at? rest)

theorem at?_append (piece : Piece) (outer inner : Address) :
    piece.at? (outer ++ inner) = (piece.at? outer).bind (·.at? inner) := by
  induction outer generalizing piece with
  | nil => rfl
  | cons index rest induction =>
      rw [List.cons_append, at?, at?, Option.bind_assoc]
      simp only [induction]

/-- Going down from piece to piece comes to an end. The sizes of the pieces do not show
this, because a shorthand entry stands for more than it is. -/
theorem wellFounded_child : WellFounded fun child piece : Piece => child ∈ piece.children :=
  ⟨Piece.induction fun piece below => .intro piece below⟩

/-- The addresses of the nodes in a piece: the piece itself comes first if it is a node,
and its immediate pieces follow one after another. -/
def addresses (piece : Piece) : List Address :=
  piece.own.map (fun _ => []) ++
    (piece.children.attach.mapIdx fun index child => child.1.addresses.map (index :: ·)).flatten
termination_by wellFounded_child.wrap piece
decreasing_by exact child.2

theorem addresses_eq (piece : Piece) :
    piece.addresses = piece.own.map (fun _ => []) ++
      (piece.children.mapIdx fun index child => child.addresses.map (index :: ·)).flatten := by
  rw [addresses]
  congr 2
  apply List.ext_getElem <;> simp

/-- An address in one of several pieces starts with the index of the piece. -/
theorem mem_flatten_addresses_iff {pieces : List Piece} {address : Address} :
    address ∈ (pieces.mapIdx fun index piece => piece.addresses.map (index :: ·)).flatten ↔
      ∃ index piece rest, pieces[index]? = some piece ∧ rest ∈ piece.addresses ∧
        address = index :: rest := by
  simp only [List.mem_flatten, List.mem_mapIdx]
  constructor
  · rintro ⟨_, ⟨index, bound, rfl⟩, member⟩
    rcases List.mem_map.mp member with ⟨rest, isBelow, rfl⟩
    exact ⟨index, _, rest, List.getElem?_eq_getElem bound, isBelow, rfl⟩
  · rintro ⟨index, piece, rest, found, isBelow, rfl⟩
    rcases List.getElem?_eq_some_iff.mp found with ⟨bound, rfl⟩
    exact ⟨_, ⟨index, bound, rfl⟩, List.mem_map_of_mem isBelow⟩

/-- Exactly the nodes in a piece have their addresses in the list. -/
theorem mem_addresses_iff (piece : Piece) (address : Address) :
    address ∈ piece.addresses ↔ ∃ found, piece.at? address = some (.node found) := by
  induction piece using Piece.induction generalizing address with
  | step piece induction =>
      rw [addresses_eq, List.mem_append, mem_flatten_addresses_iff]
      cases address with
      | nil => cases piece <;> simp [own, at?]
      | cons index rest =>
          constructor
          · rintro (own | ⟨_, child, _, isChild, isBelow, same⟩)
            · simp at own
            · cases same
              have member := List.mem_of_getElem? isChild
              rcases (induction child member rest).mp isBelow with ⟨found, holds⟩
              exact ⟨found, by rw [at?, isChild]; exact holds⟩
          · rintro ⟨found, holds⟩
            rcases Option.bind_eq_some_iff.mp holds with ⟨child, isChild, holds⟩
            have isBelow :=
              (induction child (List.mem_of_getElem? isChild) rest).mpr ⟨found, holds⟩
            exact .inr ⟨index, child, rest, isChild, isBelow, rfl⟩

/-- The addresses are listed in lexicographic order, each one once. -/
theorem pairwise_addresses (piece : Piece) : piece.addresses.Pairwise (· < ·) := by
  induction piece using Piece.induction with
  | step piece induction =>
      rw [addresses_eq, List.pairwise_append]
      refine ⟨by cases piece <;> simp [own], ?_, ?_⟩
      · rw [List.pairwise_flatten]
        constructor
        · intro inside member
          rcases List.mem_mapIdx.mp member with ⟨index, bound, rfl⟩
          refine (induction _ (List.getElem_mem bound)).map _ ?_
          intro left right before
          exact List.cons_lt_cons_iff.mpr (.inr ⟨rfl, before⟩)
        · rw [List.pairwise_iff_getElem]
          intro left right _ _ before first isFirst second isSecond
          simp only [List.getElem_mapIdx, List.mem_map] at isFirst isSecond
          rcases isFirst with ⟨_, _, rfl⟩
          rcases isSecond with ⟨_, _, rfl⟩
          exact List.cons_lt_cons_iff.mpr (.inl before)
      · intro own isOwn inside isInside
        rcases mem_flatten_addresses_iff.mp isInside with ⟨index, _, rest, _, _, rfl⟩
        rcases List.mem_map.mp isOwn with ⟨_, _, rfl⟩
        exact List.nil_lt_cons index rest

theorem nodup_addresses (piece : Piece) : piece.addresses.Nodup := by
  refine piece.pairwise_addresses.imp ?_
  intro left right before same
  exact List.lt_irrefl right (same ▸ before)

end Piece

namespace Start

/-- A start as a piece. A program is a group of its statements. -/
def piece : Start → Piece
  | program found => .part (.construct .block found.items)
  | node found => .node found

/-- A node stands at an address below a start. -/
def NodeAt (start : Start) (address : Address) (found : Node) : Prop :=
  start.piece.at? address = some (.node found)

/-- The addresses of the nodes below a start. -/
def addresses (start : Start) : List Address := start.piece.addresses

theorem mem_addresses_iff (start : Start) (address : Address) :
    address ∈ start.addresses ↔ ∃ found, start.NodeAt address found :=
  start.piece.mem_addresses_iff address

end Start

end DirectiveScan
