import DirectiveScan.Template.Element
import Mathlib.Data.List.Basic

namespace DirectiveScan.Template

/-! Which custom elements a document has, and in which order they are listed, whatever the
tree of the document looks like.

A place in the tree is an address: which child to take at every step down. Addresses are
compared lexicographically, and that is the order in which the nodes stand in the document. -/

/-! ## The tags of a tree -/

namespace DocumentNode

/-- A node stands at an address, and no node above it is a well-formed opening tag. -/
inductive Exposes : DocumentNode → List Nat → DocumentNode → Prop
  | here {node : DocumentNode} : Exposes node [] node
  | inside {node child inner : DocumentNode} {index : Nat} {rest : List Nat}
      (isPassed : node.isOpening = false) (isChild : node.children[index]? = some child)
      (exposed : Exposes child rest inner) : Exposes node (index :: rest) inner

/-- A well-formed opening tag is exposed at an address, and in small letters it has the
given name. -/
def NamesAt (root : DocumentNode) (address : List Nat) (name : String) : Prop :=
  ∃ tag, root.Exposes address tag ∧ tag.isOpening = true ∧
    ∃ written, tag.tagName? = some written ∧ lowercase written = name

section

variable {root : DocumentNode} {name : String}

theorem namesAt_of_isOpening (opens : root.isOpening = true) {address : List Nat} :
    root.NamesAt address name ↔
      address = [] ∧ ∃ written, root.tagName? = some written ∧ lowercase written = name := by
  constructor
  · rintro ⟨tag, exposed, _, isNamed⟩
    cases exposed with
    | here => exact ⟨rfl, isNamed⟩
    | inside isPassed => simp [opens] at isPassed
  · rintro ⟨rfl, isNamed⟩
    exact ⟨root, .here, opens, isNamed⟩

theorem namesAt_of_not_isOpening (isPassed : root.isOpening = false) {address : List Nat} :
    root.NamesAt address name ↔ ∃ index child rest, root.children[index]? = some child ∧
      address = index :: rest ∧ child.NamesAt rest name := by
  constructor
  · rintro ⟨tag, exposed, opens, isNamed⟩
    cases exposed with
    | here => simp [isPassed] at opens
    | inside _ isChild exposed => exact ⟨_, _, _, isChild, rfl, tag, exposed, opens, isNamed⟩
  · rintro ⟨index, child, rest, isChild, rfl, tag, exposed, opens, isNamed⟩
    exact ⟨tag, .inside isPassed isChild exposed, opens, isNamed⟩

end

mutual

/-- The names that are collected in a node, each with the address of its tag. -/
def named : DocumentNode → List (List Nat × String)
  | ⟨kind, hasError, isMissing, text?, children⟩ =>
      let node : DocumentNode := ⟨kind, hasError, isMissing, text?, children⟩
      if node.isOpening then (node.tagName?.map fun name => ([], lowercase name)).toList
      else namedFrom 0 children

/-- The same for siblings, the first of which has the given index. -/
def namedFrom (index : Nat) : List DocumentNode → List (List Nat × String)
  | [] => []
  | child :: rest => child.named.map (Prod.map (index :: ·) id) ++ namedFrom (index + 1) rest

end

mutual

theorem map_snd_named : (node : DocumentNode) → node.named.map Prod.snd = node.tagNames
  | ⟨kind, hasError, isMissing, text?, children⟩ => by
      rw [named, tagNames]
      split
      · cases tagName? _ <;> rfl
      · exact map_snd_namedFrom 0 children

theorem map_snd_namedFrom (index : Nat) : (children : List DocumentNode) →
    (namedFrom index children).map Prod.snd = tagNamesOf children
  | [] => rfl
  | child :: rest => by
      rw [namedFrom, tagNamesOf, List.map_append, map_snd_namedFrom (index + 1) rest,
        ← map_snd_named child, List.map_map]
      rfl

end

theorem mem_map_cons_iff (index : Nat) (found : List (List Nat × String)) (address : List Nat)
    (name : String) : (address, name) ∈ found.map (Prod.map (index :: ·) id) ↔
      ∃ rest, address = index :: rest ∧ (rest, name) ∈ found := by
  simp [eq_comm, and_comm, and_assoc]

mutual

/-- The collected names are those of the exposed tags. -/
theorem mem_named_iff : (node : DocumentNode) → (address : List Nat) → (name : String) →
    ((address, name) ∈ node.named ↔ node.NamesAt address name)
  | ⟨kind, hasError, isMissing, text?, children⟩, address, name => by
      rw [named]
      split
      case isTrue opens =>
        rw [namesAt_of_isOpening opens]
        cases tagName? _ with
        | none => simp
        | some written => simp [eq_comm]
      case isFalse isPassed =>
        rw [mem_namedFrom_iff, namesAt_of_not_isOpening (by simpa using isPassed)]
        simp

theorem mem_namedFrom_iff (first : Nat) : (children : List DocumentNode) →
    (address : List Nat) → (name : String) → ((address, name) ∈ namedFrom first children ↔
      ∃ index child rest, children[index]? = some child ∧ address = (first + index) :: rest ∧
        child.NamesAt rest name)
  | [], address, name => by simp [namedFrom]
  | child :: others, address, name => by
      rw [namedFrom, List.mem_append, mem_map_cons_iff, mem_namedFrom_iff (first + 1) others]
      constructor
      · rintro (⟨rest, same, isNamed⟩ | ⟨index, other, rest, isOther, same, names⟩)
        · exact ⟨0, child, rest, rfl, same, (mem_named_iff child rest name).mp isNamed⟩
        · exact ⟨index + 1, other, rest, isOther, by rw [same, Nat.add_right_comm]; rfl, names⟩
      · rintro ⟨index, other, rest, isOther, same, names⟩
        cases index with
        | zero =>
            cases isOther
            exact .inl ⟨rest, same, (mem_named_iff child rest name).mpr names⟩
        | succ index =>
            exact .inr ⟨index, other, rest, isOther, by rw [same, Nat.add_right_comm]; rfl, names⟩

end

mutual

/-- The names are collected in the order of their tags. -/
theorem pairwise_named : (node : DocumentNode) →
    node.named.Pairwise fun left right => left.1 < right.1
  | ⟨kind, hasError, isMissing, text?, children⟩ => by
      rw [named]
      split
      · cases tagName? _ <;> simp
      · exact pairwise_namedFrom 0 children

theorem pairwise_namedFrom (first : Nat) : (children : List DocumentNode) →
    (namedFrom first children).Pairwise fun left right => left.1 < right.1
  | [] => .nil
  | child :: others => by
      rw [namedFrom, List.pairwise_append, List.pairwise_map]
      refine ⟨(pairwise_named child).imp ?_, pairwise_namedFrom (first + 1) others, ?_⟩
      · intro left right before
        exact List.cons_lt_cons_iff.mpr (.inr ⟨rfl, before⟩)
      · rintro left inChild ⟨address, name⟩ inOthers
        rcases List.mem_map.mp inChild with ⟨inner, _, rfl⟩
        rcases (mem_namedFrom_iff _ _ _ _).mp inOthers with ⟨index, _, rest, _, rfl, _⟩
        exact List.cons_lt_cons_iff.mpr (.inl (by omega))

end

end DocumentNode

/-! ## First appearances -/

section

variable (stands : List Nat → String → Prop)

/-- The first of the addresses at which a name stands. -/
def IsFirst (address : List Nat) (name : String) : Prop :=
  stands address name ∧ ∀ other, stands other name → ¬other < address

/-- One name comes up before another one does. -/
def FirstBefore (left right : String) : Prop :=
  ∃ leftAddress rightAddress, IsFirst stands leftAddress left ∧
    IsFirst stands rightAddress right ∧ leftAddress < rightAddress

variable {stands}

theorem IsFirst.unique {address other : List Nat} {name : String}
    (here : IsFirst stands address name) (there : IsFirst stands other name) :
    address = other :=
  List.le_antisymm (List.not_lt.mp (here.2 other there.1)) (List.not_lt.mp (there.2 address here.1))

theorem FirstBefore.asymm {left right : String} (before : FirstBefore stands left right) :
    ¬FirstBefore stands right left := by
  rintro ⟨rightAddress, leftAddress, isRight, isLeft, after⟩
  rcases before with ⟨_, _, isLeft', isRight', before⟩
  cases isLeft.unique isLeft'
  cases isRight.unique isRight'
  exact List.lt_asymm before after

end

theorem mem_unseen_iff (seen names : List String) (name : String) :
    name ∈ unseen seen names ↔ name ∈ names ∧ name ∉ seen := by
  induction names generalizing seen with
  | nil => simp [unseen]
  | cons first rest induction =>
      rw [unseen]
      split
      case isTrue isSeen =>
        rw [induction]
        grind
      case isFalse isNew =>
        rw [List.mem_cons, induction]
        grind

/-- A name stands at an address of a list. -/
def ListedAt (found : List (List Nat × String)) (address : List Nat) (name : String) : Prop :=
  (address, name) ∈ found

section

variable {first : List Nat × String} {found rest : List (List Nat × String)}
variable {left right name : String}

theorem isFirst_of_head (before : ∀ next ∈ rest, first.1 < next.1) :
    IsFirst (ListedAt (first :: rest)) first.1 first.2 := by
  refine ⟨List.mem_cons_self .., ?_⟩
  intro other isNamed less
  rcases List.mem_cons.mp isNamed with same | later
  · cases (congrArg Prod.fst same : other = first.1)
    exact List.lt_irrefl first.1 less
  · exact List.lt_asymm less (before _ later)

theorem IsFirst.cons {address : List Nat} (isFirst : IsFirst (ListedAt rest) address name)
    (different : name ≠ first.2) : IsFirst (ListedAt (first :: rest)) address name := by
  refine ⟨List.mem_cons_of_mem _ isFirst.1, ?_⟩
  intro other isNamed
  rcases List.mem_cons.mp isNamed with same | later
  · exact absurd (congrArg Prod.snd same) different
  · exact isFirst.2 other later

theorem FirstBefore.cons (before : FirstBefore (ListedAt rest) left right)
    (leftDifferent : left ≠ first.2) (rightDifferent : right ≠ first.2) :
    FirstBefore (ListedAt (first :: rest)) left right := by
  rcases before with ⟨leftAddress, rightAddress, isLeft, isRight, before⟩
  exact ⟨leftAddress, rightAddress, isLeft.cons leftDifferent, isRight.cons rightDifferent,
    before⟩

theorem exists_isFirst (increasing : found.Pairwise fun left right => left.1 < right.1)
    (isNamed : name ∈ found.map Prod.snd) : ∃ address, IsFirst (ListedAt found) address name := by
  induction found with
  | nil => cases isNamed
  | cons first rest induction =>
      rcases List.pairwise_cons.mp increasing with ⟨before, increasing⟩
      by_cases same : name = first.2
      · subst same
        exact ⟨first.1, isFirst_of_head before⟩
      · have inRest : name ∈ rest.map Prod.snd := by simpa [same] using isNamed
        rcases induction increasing inRest with ⟨address, isFirst⟩
        exact ⟨address, isFirst.cons same⟩

end

/-- Of names at increasing addresses those that have not been seen are listed in the order
in which they come up. -/
theorem pairwise_unseen (seen : List String) {found : List (List Nat × String)}
    (increasing : found.Pairwise fun left right => left.1 < right.1) :
    (unseen seen (found.map Prod.snd)).Pairwise (FirstBefore (ListedAt found)) := by
  induction found generalizing seen with
  | nil => exact .nil
  | cons first rest induction =>
      rcases List.pairwise_cons.mp increasing with ⟨before, increasing⟩
      -- Once the first name has been seen, no other name is the same.
      have later (seen : List String) (isSeen : first.2 ∈ seen) :
          (unseen seen (rest.map Prod.snd)).Pairwise (FirstBefore (ListedAt (first :: rest))) := by
        have differs {name : String} (isUnseen : name ∈ unseen seen (rest.map Prod.snd)) :
            name ≠ first.2 :=
          fun same => ((mem_unseen_iff ..).mp isUnseen).2 (same ▸ isSeen)
        apply (induction seen increasing).imp_of_mem
        intro left right isLeft isRight before
        exact before.cons (differs isLeft) (differs isRight)
      rw [List.map_cons, unseen]
      split
      case isTrue isSeen => exact later seen isSeen
      case isFalse isNew =>
        refine .cons ?_ (later _ (List.mem_cons_self ..))
        intro right isRight
        rcases (mem_unseen_iff ..).mp isRight with ⟨isNamed, differs⟩
        rcases exists_isFirst increasing isNamed with ⟨address, isFirst⟩
        have differs : right ≠ first.2 := fun same => differs (by simp [same])
        exact ⟨first.1, address, isFirst_of_head before, isFirst.cons differs,
          before _ isFirst.1⟩

theorem idxOf_lt_idxOf_iff {names : List String} {before : String → String → Prop}
    (ordered : names.Pairwise before)
    (asymm : ∀ left right, before left right → ¬before right left)
    {left right : String} (isLeft : left ∈ names) (isRight : right ∈ names) :
    names.idxOf left < names.idxOf right ↔ before left right := by
  have of_lt {left right : String} (isLeft : left ∈ names) (isRight : right ∈ names)
      (less : names.idxOf left < names.idxOf right) : before left right := by
    have both := List.pairwise_iff_getElem.mp ordered _ _ (List.idxOf_lt_length_of_mem isLeft)
      (List.idxOf_lt_length_of_mem isRight) less
    simpa using both
  constructor
  · exact of_lt isLeft isRight
  · intro isBefore
    rcases Nat.lt_trichotomy (names.idxOf left) (names.idxOf right) with less | same | more
    · exact less
    · cases (List.idxOf_inj isLeft).mp same
      exact absurd isBefore (asymm _ _ isBefore)
    · exact absurd isBefore (asymm _ _ (of_lt isRight isLeft more))

/-! ## Documents -/

section

variable (parse : DocumentParser) (document : String)

/-- A well-formed opening tag of a document is exposed at an address of its tree, and in
small letters it has the given name. -/
def NamesAt (address : List Nat) (name : String) : Prop :=
  ∃ root ∈ parse document, root.NamesAt address name

/-- The custom elements among the names of a document, with their addresses. -/
def customTags : List (List Nat × String) :=
  (((parse document).map DocumentNode.named).getD []).filter fun tag => isCustom tag.2

theorem listedAt_customTags_iff (address : List Nat) (name : String) :
    ListedAt (customTags parse document) address name ↔
      '-' ∈ name.toList ∧ NamesAt parse document address name := by
  cases parsed : parse document with
  | none => simp [ListedAt, customTags, NamesAt, parsed]
  | some root =>
      simp [ListedAt, customTags, NamesAt, parsed, isCustom, DocumentNode.mem_named_iff, and_comm]

theorem customElementsBy_eq :
    customElementsBy parse document = unseen [] ((customTags parse document).map Prod.snd) := by
  cases parsed : parse document with
  | none => simp [customElementsBy, customTags, parsed, unseen]
  | some root =>
      simp [customElementsBy, customTags, parsed, DocumentNode.customElements,
        ← DocumentNode.map_snd_named, List.filter_map, Function.comp_def]

theorem pairwise_customTags :
    (customTags parse document).Pairwise fun left right => left.1 < right.1 := by
  apply List.Pairwise.filter
  cases parse document with
  | none => exact .nil
  | some root => exact root.pairwise_named

theorem mem_customElementsBy_iff (name : String) :
    name ∈ customElementsBy parse document ↔
      '-' ∈ name.toList ∧ ∃ address, NamesAt parse document address name := by
  have listed : name ∈ customElementsBy parse document ↔
      ∃ address, ListedAt (customTags parse document) address name := by
    rw [customElementsBy_eq, mem_unseen_iff]
    simp [ListedAt]
  simp only [listed, listedAt_customTags_iff, exists_and_left]

theorem pairwise_customElementsBy :
    (customElementsBy parse document).Pairwise (FirstBefore (NamesAt parse document)) := by
  have ordered := pairwise_unseen [] (pairwise_customTags parse document)
  rw [← customElementsBy_eq] at ordered
  -- Custom elements share no name with a tag that is left out.
  have firstOfAll {address : List Nat} {name : String}
      (isElement : name ∈ customElementsBy parse document)
      (isFirst : IsFirst (ListedAt (customTags parse document)) address name) :
      IsFirst (NamesAt parse document) address name := by
    have hasDash := ((mem_customElementsBy_iff parse document name).mp isElement).1
    simpa [IsFirst, listedAt_customTags_iff, hasDash] using isFirst
  apply ordered.imp_of_mem
  rintro left right isLeft isRight ⟨leftAddress, rightAddress, leftFirst, rightFirst, before⟩
  exact ⟨leftAddress, rightAddress, firstOfAll isLeft leftFirst,
    firstOfAll isRight rightFirst, before⟩

theorem isUpper_toLower (character : Char) : character.toLower.isUpper = false := by
  delta Char.toLower Char.isUpper
  split
  case isTrue isUpper =>
    simp [UInt32.le_iff_toNat_le] at isUpper ⊢
    omega
  case isFalse notUpper => simpa using notUpper

theorem NamesAt.isUpper_eq_false {address : List Nat} {name : String}
    (names : NamesAt parse document address name) :
    ∀ character ∈ name.toList, character.isUpper = false := by
  rcases names with ⟨_, _, _, _, _, written, _, rfl⟩
  simp only [lowercase, String.toList_ofList, List.forall_mem_map, isUpper_toLower, implies_true]

end

/-- In the tree that is built of the tags of a document every tag is exposed. -/
theorem namesAt_parseTags_iff (document : String) (address : List Nat) (name : String) :
    NamesAt parseTags document address name ↔
      ∃ index tag, (tags document)[index]? = some tag ∧ address = [index] ∧
        tag.element = name := by
  have ofTag (tag : Tag) (rest : List Nat) :
      tag.node.NamesAt rest name ↔ rest = [] ∧ tag.element = name := by
    have opens : tag.node.isOpening = true := by
      cases isClosed : tag.isClosed <;> simp [Tag.node, DocumentNode.isOpening, isClosed]
    rw [DocumentNode.namesAt_of_isOpening opens]
    simp [Tag.node, DocumentNode.tagName?, Tag.element]
  simp only [NamesAt, parseTags, Option.mem_some_iff, exists_eq_left']
  rw [DocumentNode.namesAt_of_not_isOpening (by rfl)]
  simp [ofTag]

/-- Read by its tags, a document has the custom elements that one of them opens. -/
theorem mem_customElements_iff (document name : String) :
    name ∈ customElements document ↔
      '-' ∈ name.toList ∧ ∃ tag ∈ tags document, tag.element = name := by
  rw [customElements, mem_customElementsBy_iff]
  simp only [namesAt_parseTags_iff, List.mem_iff_getElem?]
  grind

/-- The custom elements of a document, whatever its tree is: none twice, all in small
letters and with a dash, exactly the names of the exposed tags, and in the order in which
they first appear. -/
theorem custom_elements_by_first_appearance (parse : DocumentParser) (document : String) :
    let elements := customElementsBy parse document
    elements.Nodup ∧
    (∀ name ∈ elements, (∀ character ∈ name.toList, character.isUpper = false) ∧
      '-' ∈ name.toList) ∧
    (∀ name, name ∈ elements ↔
      '-' ∈ name.toList ∧ ∃ address, NamesAt parse document address name) ∧
    (∀ left ∈ elements, ∀ right ∈ elements, elements.idxOf left < elements.idxOf right ↔
      FirstBefore (NamesAt parse document) left right) := by
  intro elements
  have ordered : elements.Pairwise (FirstBefore (NamesAt parse document)) :=
    pairwise_customElementsBy parse document
  refine ⟨?_, ?_, mem_customElementsBy_iff parse document, ?_⟩
  · apply ordered.imp
    rintro left _ before rfl
    exact before.asymm before
  · intro name member
    rcases (mem_customElementsBy_iff ..).mp member with ⟨hasDash, _, names⟩
    exact ⟨names.isUpper_eq_false, hasDash⟩
  · intro left isLeft right isRight
    exact idxOf_lt_idxOf_iff ordered (fun _ _ before => before.asymm) isLeft isRight

example : customElements "<my-pet><b><dog-card/></b><My-Pet></My-Pet></my-pet>" =
    ["my-pet", "dog-card"] := by decide +kernel

end DirectiveScan.Template
