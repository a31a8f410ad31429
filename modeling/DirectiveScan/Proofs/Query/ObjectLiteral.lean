import DirectiveScan.Proofs.Query.EntryRole
import Mathlib.Data.List.Sort

namespace DirectiveScan

/-! Two views of an object literal.

A walk meets an entry with a key and a value as a property, and a shorthand entry as the
property that it stands for. The fields of the literal show a node only for the former. The
main statement says what each of the two views shows, and that they agree exactly for
literals without shorthand entries. -/

/-- The property as which a walk meets an entry. -/
def Entry.property? : Entry → Option Node
  | .property key value => some (.property key value)
  | .shorthand word => some (.property (.name word) (.node (.identifier word)))
  | _ => none

/-- What stands first in an entry, if it is a property, has the role of the entry. -/
theorem Piece.reach_entry_iff (entry : Entry) (standing reached : Standing) (found : Node) :
    (Piece.entry entry).reach standing [0] = some (.node found, reached) ∧
        found.kind = .objectProperty ↔
      entry.property? = some found ∧
        reached = ⟨standing.here ++ [0], standing.role, standing.above⟩ := by
  -- An entry that is met as a property holds nothing else.
  have around {inner : Node} (only : (Piece.entry entry).children = [.node inner])
      (isProperty : inner.kind = .objectProperty) :
      (Piece.entry entry).reach standing [0] = some (.node found, reached) ∧
          found.kind = .objectProperty ↔
        some inner = some found ∧
          reached = ⟨standing.here ++ [0], standing.role, standing.above⟩ := by
    rw [Piece.reach, only]
    constructor
    · rintro ⟨isFound, _⟩
      cases isFound
      exact ⟨rfl, rfl⟩
    · rintro ⟨isFound, isReached⟩
      cases isFound
      rw [isReached]
      exact ⟨rfl, isProperty⟩
  cases entry with
  | property key value => exact around rfl rfl
  | shorthand word => exact around rfl rfl
  | initialized word value =>
      constructor
      · rintro ⟨isFound, isProperty⟩
        cases isFound
        cases isProperty
      · rintro ⟨isFound, _⟩
        cases isFound
  | method key parts => constructor <;> rintro ⟨isFound, _⟩ <;> cases isFound
  | spread value => constructor <;> rintro ⟨isFound, _⟩ <;> cases isFound

namespace Start

/-- Whether an occurrence is itself an entry of the literal at an address. It then stands
immediately in the entry, and the entry immediately in the literal. -/
def isEntryOf (address : Address) (occurrence : Address × Visit) : Bool :=
  occurrence.2.node.kind = .objectProperty &&
    match occurrence.2.role with
    | .entry index => occurrence.1 = address ++ [index, 0]
    | _ => false

/-- The properties that a walk meets as entries of the literal at an address, in its order. -/
def entriesOf (start : Start) (address : Address) : List Node :=
  ((start.addresses.zip start.walk).filter (isEntryOf address)).map (·.2.node)

/-- The walk and the fields show the same properties of a literal: as a list, and one by
one under the index of each entry. -/
structure SeenAlike (start : Start) (address : Address) (literal : Node) : Prop where
  lists : ∃ items, literal.deepField? "properties" = some (.list items) ∧
    start.entriesOf address = items.filterMap Field.node?
  indices : ∀ index < 2 ^ 64, ∀ found : Node, found.kind = .objectProperty →
    (start.Offers (address ++ [index, 0]) ⟨found, .entry index, some .objectExpression⟩ ↔
      literal.deepField? ("properties" ++ "." ++ toString index) = some (.node found))

variable {start : Start} {address : Address} {entries : List Entry}

/-! ## The walk -/

theorem offers_entry_iff (isLiteral : start.NodeAt address (.object entries)) (index : Nat)
    (visit : Visit) :
    start.Offers (address ++ [index, 0]) visit ∧ visit.node.kind = .objectProperty ↔
      ∃ entry found, entries[index]? = some entry ∧ entry.property? = some found ∧
        visit = ⟨found, .entry index, some .objectExpression⟩ := by
  rcases (start.nodeAt_iff_reach address _).mp isLiteral with ⟨standing, isNode⟩
  have isPiece : (Node.object entries).pieces[index]? = entries[index]?.map .entry := by
    rw [Node.pieces, List.getElem?_map]
  rw [offers_iff, reach_below isNode, isPiece]
  constructor
  · intro ⟨⟨reached, holds, isVisit⟩, isProperty⟩
    rcases Option.bind_eq_some_iff.mp holds with ⟨_, isChild, holds⟩
    rcases Option.map_eq_some_iff.mp isChild with ⟨entry, isEntry, rfl⟩
    have ⟨isFound, isReached⟩ := (Piece.reach_entry_iff ..).mp ⟨holds, isProperty⟩
    refine ⟨entry, visit.node, isEntry, isFound, ?_⟩
    rw [isVisit, isReached]
    rfl
  · intro ⟨entry, found, isEntry, isFound, isVisit⟩
    have ⟨holds, isProperty⟩ := (Piece.reach_entry_iff entry
      ⟨address ++ [index], .entry index, some (address, .object entries)⟩ _ found).mpr
      ⟨isFound, rfl⟩
    rw [isEntry, isVisit]
    exact ⟨⟨_, holds, rfl⟩, isProperty⟩

def occurrencesOf (address : Address) (entries : List Entry) : List (Address × Visit) :=
  entries.zipIdx.filterMap fun (entry, index) => entry.property?.map fun found =>
    (address ++ [index, 0], ⟨found, .entry index, some .objectExpression⟩)

theorem mem_occurrencesOf_iff (occurrence : Address × Visit) :
    occurrence ∈ occurrencesOf address entries ↔
      ∃ index entry found, entries[index]? = some entry ∧ entry.property? = some found ∧
        occurrence =
          (address ++ [index, 0], ⟨found, .entry index, some .objectExpression⟩) := by
  simp only [occurrencesOf, List.mem_filterMap, Prod.exists, List.mem_zipIdx_iff_getElem?,
    Option.map_eq_some_iff]
  constructor
  · intro ⟨entry, index, isEntry, found, isFound, same⟩
    exact ⟨index, entry, found, isEntry, isFound, same.symm⟩
  · intro ⟨index, entry, found, isEntry, isFound, same⟩
    exact ⟨entry, index, isEntry, found, isFound, same.symm⟩

theorem map_node_occurrencesOf (address : Address) (entries : List Entry) :
    (occurrencesOf address entries).map (·.2.node) = entries.filterMap Entry.property? := by
  have perEntry : (occurrencesOf address entries).map (·.2.node) =
      entries.zipIdx.filterMap (Entry.property? ∘ Prod.fst) := by
    rw [occurrencesOf, List.map_filterMap]
    congr 1
    funext ⟨entry, index⟩
    cases property : entry.property? <;> simp [property]
  rw [perEntry, ← List.filterMap_map, List.zipIdx_map_fst]

theorem pairwise_occurrencesOf (address : Address) (entries : List Entry) :
    (occurrencesOf address entries).Pairwise Precedes := by
  have indices : entries.zipIdx.Pairwise fun left right => left.2 < right.2 := by
    apply List.pairwise_map.mp
    rw [List.zipIdx_map_snd]
    exact List.pairwise_lt_range'
  refine List.pairwise_filterMap.mpr (indices.imp ?_)
  intro left right before first isFirst second isSecond
  rcases Option.map_eq_some_iff.mp isFirst with ⟨_, _, rfl⟩
  rcases Option.map_eq_some_iff.mp isSecond with ⟨_, _, rfl⟩
  exact List.append_left_lt (List.cons_lt_cons_iff.mpr (.inl before))

theorem isEntryOf_iff (address other : Address) (visit : Visit) :
    isEntryOf address (other, visit) = true ↔
      visit.node.kind = .objectProperty ∧
        ∃ index, visit.role = .entry index ∧ other = address ++ [index, 0] := by
  rcases visit with ⟨found, role, parent⟩
  cases role <;> simp [isEntryOf]

/-- The walk meets the entries of a literal as the properties that they are or stand for. -/
theorem entriesOf_eq (isLiteral : start.NodeAt address (.object entries)) :
    start.entriesOf address = entries.filterMap Entry.property? := by
  have same : (start.addresses.zip start.walk).filter (isEntryOf address) =
      occurrencesOf address entries := by
    have irreflexive : Std.Irrefl Precedes := ⟨fun one => List.lt_irrefl one.1⟩
    have antisymmetric : Std.Antisymm Precedes :=
      ⟨fun left right before after => absurd after (List.lt_asymm before)⟩
    refine List.Pairwise.eq_of_mem_iff (start.pairwise_occurrences.filter _)
      (pairwise_occurrencesOf address entries) fun ⟨other, visit⟩ => ?_
    rw [List.mem_filter, isEntryOf_iff, mem_occurrencesOf_iff]
    constructor
    · intro ⟨offers, isProperty, index, _, isOther⟩
      subst isOther
      rcases (offers_entry_iff isLiteral index visit).mp ⟨offers, isProperty⟩
        with ⟨entry, found, isEntry, isFound, isVisit⟩
      exact ⟨index, entry, found, isEntry, isFound, by rw [isVisit]⟩
    · intro ⟨index, entry, found, isEntry, isFound, same⟩
      cases same
      have ⟨offers, isProperty⟩ := (offers_entry_iff isLiteral index _).mpr
        ⟨entry, found, isEntry, isFound, rfl⟩
      exact ⟨offers, isProperty, index, rfl, rfl⟩
  rw [entriesOf, same, map_node_occurrencesOf]

/-! ## The fields -/

theorem deepField?_properties (entries : List Entry) :
    (Node.object entries).deepField? "properties" = some (.list (entries.map .ofEntry)) :=
  Node.deepField?_word _ (by decide) (by decide)

theorem deepField?_properties_index (entries : List Entry) {index : Nat} (fits : index < 2 ^ 64) :
    (Node.object entries).deepField? ("properties" ++ "." ++ toString index) =
      entries[index]?.map .ofEntry := by
  rw [Node.deepField?_word_index _ (by decide) (by decide), ← List.getElem?_map,
    ← Field.step?_toString _ fits]
  rfl

theorem node?_eq_some_iff (field : Field) (found : Node) :
    field.node? = some found ↔ field = .node found := by
  cases field <;> simp [Field.node?]

/-! ## The two views -/

theorem property?_eq_node? {entry : Entry} (noShorthand : ∀ word, entry ≠ .shorthand word) :
    entry.property? = (Field.ofEntry entry).node? := by
  cases entry with
  | shorthand word => exact absurd rfl (noShorthand word)
  | _ => rfl

theorem length_fields_le (entries : List Entry) :
    ((entries.map Field.ofEntry).filterMap Field.node?).length ≤
      (entries.filterMap Entry.property?).length := by
  induction entries with
  | nil => exact Nat.le_refl 0
  | cons entry rest induction =>
      cases entry with
      | property key value => exact Nat.succ_le_succ induction
      | shorthand word => exact Nat.le_succ_of_le induction
      | _ => exact induction

/-- The two lists are equal exactly if no entry is a shorthand entry, because each of these
makes only one of the lists longer. -/
theorem lists_eq_iff (entries : List Entry) :
    entries.filterMap Entry.property? = (entries.map Field.ofEntry).filterMap Field.node? ↔
      ∀ word, .shorthand word ∉ entries := by
  constructor
  · intro same word member
    rcases List.append_of_mem member with ⟨before, after, rfl⟩
    have lengths := congrArg List.length same
    have ofBefore := length_fields_le before
    have ofAfter := length_fields_le after
    have longer : ((before ++ .shorthand word :: after).filterMap Entry.property?).length =
        (before.filterMap Entry.property?).length +
          ((after.filterMap Entry.property?).length + 1) := by
      rw [List.filterMap_append, List.length_append]
      rfl
    have shorter : (((before ++ .shorthand word :: after).map Field.ofEntry).filterMap
          Field.node?).length =
        ((before.map Field.ofEntry).filterMap Field.node?).length +
          ((after.map Field.ofEntry).filterMap Field.node?).length := by
      rw [List.map_append, List.filterMap_append, List.length_append]
      rfl
    omega
  · intro noShorthand
    rw [List.filterMap_map]
    refine List.filterMap_congr fun entry member => property?_eq_node? ?_
    intro word isShorthand
    exact noShorthand word (isShorthand ▸ member)

theorem seenAlike_iff (isLiteral : start.NodeAt address (.object entries)) :
    start.SeenAlike address (.object entries) ↔ ∀ word, .shorthand word ∉ entries := by
  rw [← lists_eq_iff, ← entriesOf_eq isLiteral]
  constructor
  · intro alike
    rcases alike.lists with ⟨items, isItems, same⟩
    cases (deepField?_properties entries).symm.trans isItems
    exact same
  · intro same
    have noShorthand := (lists_eq_iff entries).mp (entriesOf_eq isLiteral ▸ same)
    refine ⟨⟨_, deepField?_properties entries, same⟩, fun index fits found isProperty => ?_⟩
    rw [deepField?_properties_index entries fits, Option.map_eq_some_iff,
      ← and_iff_left (a := start.Offers _ _) isProperty, offers_entry_iff isLiteral]
    have sameNode {entry : Entry} (isEntry : entries[index]? = some entry) :
        entry.property? = some found ↔ Field.ofEntry entry = .node found := by
      rw [← node?_eq_some_iff, property?_eq_node?]
      intro word isShorthand
      exact noShorthand word (isShorthand ▸ List.mem_of_getElem? isEntry)
    constructor
    · intro ⟨entry, other, isEntry, isOther, isVisit⟩
      cases isVisit
      exact ⟨entry, isEntry, (sameNode isEntry).mp isOther⟩
    · intro ⟨entry, isEntry, isField⟩
      exact ⟨entry, found, isEntry, (sameNode isEntry).mpr isField, rfl⟩

/-! ## Properties outside of literals -/

/-- A property stands only in an entry of an object literal. -/
def PropertiesInEntries (start : Start) : Prop :=
  ∀ outer (piece : Piece) key value, start.piece.at? outer = some piece →
    .node (.property key value) ∈ piece.children → ∃ entry, piece = .entry entry

theorem at?_concat_eq_some {start : Start} {outer : Address} {index : Nat} {inner : Piece}
    (isInner : start.piece.at? (outer ++ [index]) = some inner) :
    ∃ piece, start.piece.at? outer = some piece ∧ piece.children[index]? = some inner := by
  rw [Piece.at?_append, Option.bind_eq_some_iff] at isInner
  rcases isInner with ⟨piece, isPiece, isChild⟩
  rcases Option.bind_eq_some_iff.mp isChild with ⟨child, isChild, same⟩
  cases same
  exact ⟨piece, isPiece, isChild⟩

theorem index_of_property {entry : Entry} {index : Nat} {key : PropertyKey} {value : Expr}
    (isChild : (Piece.entry entry).children[index]? = some (.node (.property key value))) :
    index = 0 := by
  cases index with
  | zero => rfl
  | succ index =>
      have behind : .node (.property key value) ∈ (Piece.entry entry).children.tail := by
        rw [← List.getElem?_tail] at isChild
        exact List.mem_of_getElem? isChild
      cases entry <;> simp [Piece.children] at behind

theorem object_of_entry {piece : Piece} {entry : Entry} (isChild : .entry entry ∈ piece.children) :
    ∃ entries, piece = .node (.object entries) := by
  cases own : piece.own with
  | nil => cases Piece.isGroup_of_mem_children own _ isChild
  | cons found _ =>
      cases piece with
      | node found =>
          cases found with
          | object entries => exact ⟨entries, rfl⟩
          | variableDeclarator declarator =>
              rcases declarator with ⟨target, initial⟩
              simp [Piece.children, Node.pieces] at isChild
          | _ => simp [Piece.children, Node.pieces] at isChild
      | _ => cases own

/-- The way to a property leads through a literal and the entry. -/
theorem way_to_property (inEntries : start.PropertiesInEntries) {below : Address}
    (nonempty : below ≠ []) {key : PropertyKey} {value : Expr}
    (isNode : start.NodeAt below (.property key value)) :
    ∃ outer index entries entry, below = outer ++ [index] ++ [0] ∧
      start.NodeAt outer (.object entries) ∧
      start.piece.at? (outer ++ [index]) = some (.entry entry) := by
  rcases List.eq_nil_or_concat' below with empty | ⟨around, last, isBelow⟩
  · exact absurd empty nonempty
  · subst isBelow
    rcases at?_concat_eq_some isNode with ⟨piece, isPiece, isChild⟩
    rcases inEntries around piece key value isPiece (List.mem_of_getElem? isChild)
      with ⟨entry, isEntry⟩
    subst isEntry
    cases index_of_property isChild
    rcases List.eq_nil_or_concat' around with empty | ⟨outer, index, isAround⟩
    · subst empty
      cases start <;> cases isPiece
    · subst isAround
      rcases at?_concat_eq_some isPiece with ⟨literal, isLiteral, isChild⟩
      rcases object_of_entry (List.mem_of_getElem? isChild) with ⟨entries, isObject⟩
      subst isObject
      exact ⟨outer, index, entries, entry, rfl, isLiteral, isPiece⟩

/-- Where properties stand only in entries, the properties with a literal as the nearest
node above are its entries. -/
theorem above_property_iff (inEntries : start.PropertiesInEntries) (address : Address)
    {below : Address} {visit : Visit} (offers : start.Offers below visit)
    (isProperty : visit.node.kind = .objectProperty) :
    start.Above address below ↔ ∃ index, below = address ++ [index, 0] := by
  rcases visit with ⟨found, role, parent⟩
  have isNode := (start.nodeAt_iff_offers below found).mpr ⟨_, offers, rfl⟩
  by_cases empty : below = []
  · refine iff_of_false (fun nearest => ?_) fun ⟨index, isBelow⟩ => by simp [empty] at isBelow
    have leadsOn := nearest.leadsOn
    rw [empty, List.prefix_nil] at leadsOn
    exact nearest.different (leadsOn.trans empty.symm)
  · cases found with
    | property key value =>
        rcases way_to_property inEntries empty isNode
          with ⟨outer, index, entries, entry, isBelow, isLiteral, isEntry⟩
        have noNode (other : Node) : ¬start.NodeAt (outer ++ [index]) other := by
          intro isOther
          cases isEntry.symm.trans isOther
        rw [isBelow, above_concat_of_not_node noNode, above_concat_of_node isLiteral]
        constructor
        · intro same
          exact ⟨index, by simp [same]⟩
        · intro ⟨other, same⟩
          rw [List.append_assoc] at same
          exact (List.append_inj' same rfl).1.symm
    | _ => cases isProperty

/-! ## The main statement -/

/-- A walk shows all entries of a literal that are properties or stand for one, and the
fields show of these only the former as nodes. So the two views agree exactly if there is no
shorthand entry. Such an entry is met with its key and its value, but its field is only a
tag. -/
theorem object_literal_views (start : Start) (address : Address) (entries : List Entry)
    (isLiteral : start.NodeAt address (.object entries)) :
    (start.SeenAlike address (.object entries) ↔ ∀ word, .shorthand word ∉ entries) ∧
    start.entriesOf address = entries.filterMap Entry.property? ∧
    (Node.object entries).deepField? "properties" = some (.list (entries.map .ofEntry)) ∧
    (∀ index word, entries[index]? = some (.shorthand word) →
      start.Offers (address ++ [index, 0])
        ⟨.property (.name word) (.node (.identifier word)), .entry index,
          some .objectExpression⟩ ∧
      (index < 2 ^ 64 →
        (Node.object entries).deepField? ("properties" ++ "." ++ toString index) =
          some (.unmodeled "ObjectProperty"))) ∧
    (∀ index key value, entries[index]? = some (.property key value) →
      start.Offers (address ++ [index, 0])
        ⟨.property key value, .entry index, some .objectExpression⟩ ∧
      (index < 2 ^ 64 →
        (Node.object entries).deepField? ("properties" ++ "." ++ toString index) =
          some (.node (.property key value)))) ∧
    (start.PropertiesInEntries → ∀ below visit, start.Offers below visit →
      visit.node.kind = .objectProperty →
        (start.Above address below ↔ ∃ index, below = address ++ [index, 0])) := by
  have offered {index : Nat} {entry : Entry} {found : Node}
      (isEntry : entries[index]? = some entry) (isFound : entry.property? = some found) :=
    ((offers_entry_iff isLiteral index _).mpr ⟨entry, found, isEntry, isFound, rfl⟩).1
  refine ⟨seenAlike_iff isLiteral, entriesOf_eq isLiteral, deepField?_properties entries,
    fun index word isEntry => ⟨offered isEntry rfl, fun fits => ?_⟩,
    fun index key value isEntry => ⟨offered isEntry rfl, fun fits => ?_⟩,
    fun inEntries below visit => above_property_iff inEntries address⟩
  · rw [deepField?_properties_index entries fits, isEntry]
    rfl
  · rw [deepField?_properties_index entries fits, isEntry]
    rfl

/-- The property of `{ a: b }` is seen by both, and the literal holds no other ones. -/
theorem property_seen_alike :
    let entries : List Entry := [.property (.name "a") (.node (.identifier "b"))]
    let start : Start := .node (.object entries)
    start.SeenAlike [] (.object entries) ∧
      ∀ below visit, start.Offers below visit → visit.node.kind = .objectProperty →
        (start.Above [] below ↔ ∃ index, below = [index, 0]) := by
  intro entries start
  have views := object_literal_views start [] entries rfl
  refine ⟨views.1.mpr fun word member => ?_, views.2.2.2.2.2 ?_⟩
  · cases List.mem_singleton.mp member
  · intro outer piece key value isPiece member
    -- One by one, the ways down to the pieces of the literal.
    rcases outer with _ | ⟨_ | _, _ | ⟨_ | _, _ | ⟨_ | _ | _, _ | ⟨_ | _, _ | ⟨_, _⟩⟩⟩⟩⟩ <;>
      cases isPiece
    all_goals first
      | exact ⟨_, rfl⟩
      | simp [Piece.children, Node.pieces, Start.piece, entries, start] at member

/-- The property that the entry of `({ a });` stands for is seen by the walk only. -/
theorem shorthand_seen_by_walk :
    let start : Start := .program ⟨.script, [.construct .expressionStatement
      [.expr (.wrapped .parentheses (.node (.object [.shorthand "a"])) [])]]⟩
    ¬start.SeenAlike [0, 0, 0, 0, 0] (.object [.shorthand "a"]) := by
  intro start alike
  have isLiteral : start.NodeAt [0, 0, 0, 0, 0] (.object [.shorthand "a"]) := rfl
  exact (seenAlike_iff isLiteral).mp alike "a" (List.mem_singleton_self _)

end Start

end DirectiveScan
