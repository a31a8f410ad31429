import DirectiveScan.File.Walk
import DirectiveScan.Proofs.File.Lookup
import DirectiveScan.Proofs.Path.Descent
import DirectiveScan.Proofs.Path.LastName

namespace DirectiveScan

/-! Walks and single paths.

A walk goes down a tree without looking anything up. Where the entries of every directory can
be told apart, it finds at every path what the path leads to, and no place in two spellings. -/

namespace FileNode

/-! ## Trees that can be stored -/

/-- Whether a directory can hold an entry of some name. -/
def isEntryName (name : String) : Bool :=
  Path.isName name && decide (name.utf8ByteSize ≤ FileSystem.nameLimit) &&
    !name.toList.contains '\x00'

theorem isEntryName_iff {name : String} :
    isEntryName name = true ↔ Path.isName name = true ∧
      name.utf8ByteSize ≤ FileSystem.nameLimit ∧ '\x00' ∉ name.toList := by
  simp [isEntryName, and_assoc]

theorem areNames {names : List String} (named : ∀ name ∈ names, isEntryName name = true) :
    ∀ name ∈ names, Path.isName name = true :=
  fun name member => (isEntryName_iff.mp (named name member)).1

mutual

/-- Whether the entries of every directory have names, and no two of them the same. -/
def isStorable : FileNode → Bool
  | file _ => true
  | link _ => true
  | locked => true
  | directory entries => decide (entries.map Prod.fst).Nodup && entriesStorable entries

def entriesStorable : List (String × FileNode) → Bool
  | [] => true
  | (name, node) :: rest => isEntryName name && node.isStorable && entriesStorable rest

end

section

variable {entries : List (String × FileNode)} {name : String} {node : FileNode}

theorem lookup_iff_mem (distinct : (entries.map Prod.fst).Nodup) :
    entries.lookup name = some node ↔ (name, node) ∈ entries := by
  rw [List.lookup_eq_some_iff]
  constructor
  · rintro ⟨front, rest, rfl, _⟩
    simp
  · intro member
    rcases List.append_of_mem member with ⟨front, rest, rfl⟩
    refine ⟨front, rest, rfl, fun entry inFront => ?_⟩
    rw [List.map_append, List.nodup_append] at distinct
    simpa using (distinct.2.2 entry.1 (List.mem_map_of_mem inFront) name (by simp)).symm

theorem descendant?_of_mem (distinct : (entries.map Prod.fst).Nodup)
    (member : (name, node) ∈ entries) (names : List String) :
    (directory entries).descendant? (name :: names) = node.descendant? names :=
  congrArg (Option.bind · (descendant? · names)) ((lookup_iff_mem distinct).mpr member)

theorem isStorable_of_mem (storable : entriesStorable entries = true)
    (member : (name, node) ∈ entries) : isEntryName name = true ∧ node.isStorable = true := by
  induction entries with
  | nil => cases member
  | cons entry rest induction =>
      rw [entriesStorable, Bool.and_eq_true, Bool.and_eq_true] at storable
      rcases List.mem_cons.mp member with rfl | inRest
      · exact storable.1
      · exact induction storable.2 inRest

theorem isStorable_of_descendant? {tree : FileNode} (storable : tree.isStorable = true)
    {names : List String} (found : tree.descendant? names = some node) :
    node.isStorable = true := by
  apply holds_descendant? (fun entries name child storable isChild => ?_) storable found
  rw [isStorable, Bool.and_eq_true, decide_eq_true_iff] at storable
  exact (isStorable_of_mem storable.2 ((lookup_iff_mem storable.1).mp isChild)).2

end

/-! ## What a walk finds below a node -/

/-- What stands below a node at the end of some names, and at the path to which they lead. -/
structure StandsBelow (path : Path) (node : FileNode) (names : List String)
    (found : Path × FileNode) : Prop where
  named : ∀ name ∈ names, isEntryName name = true
  path_eq : found.1 = path.descend names
  isNode : node.descendant? names = some found.2

theorem StandsBelow.of_entry {path : Path} {entries : List (String × FileNode)} {name : String}
    {node : FileNode} {names : List String} {found : Path × FileNode}
    (stands : StandsBelow (path.join ⟨name⟩) node names found)
    (storable : (directory entries).isStorable = true) (isEntry : (name, node) ∈ entries) :
    StandsBelow path (directory entries) (name :: names) found := by
  rw [isStorable, Bool.and_eq_true, decide_eq_true_iff] at storable
  exact {
    named := List.forall_mem_cons.mpr ⟨(isStorable_of_mem storable.2 isEntry).1, stands.named⟩
    path_eq := stands.path_eq
    isNode := (descendant?_of_mem storable.1 isEntry names).trans stands.isNode }

theorem entriesStorable_of_directory {entries : List (String × FileNode)}
    (storable : (directory entries).isStorable = true) : entriesStorable entries = true := by
  rw [isStorable, Bool.and_eq_true] at storable
  exact storable.2

/-- What is inside of nothing but a directory is no node. -/
theorem exists_entries_of_mem_walkInside {path : Path} {node : FileNode}
    {found : Path × FileNode} (member : .ok found ∈ node.walkInside path) :
    ∃ entries, node = .directory entries ∧ .ok found ∈ walkEntries path entries := by
  cases node with
  | directory entries => exact ⟨entries, rfl, member⟩
  | file text? => cases member
  | link target => cases member
  | locked => cases List.mem_singleton.mp member

theorem mem_walkEntries_cons {path : Path} {name : String} {node : FileNode}
    {rest : List (String × FileNode)} {encounter : Encounter} :
    encounter ∈ walkEntries path ((name, node) :: rest) ↔
      encounter ∈ node.walk (path.join ⟨name⟩) ∨ encounter ∈ walkEntries path rest :=
  List.mem_append (s := node.walk (path.join ⟨name⟩))

mutual

theorem exists_names_of_mem_walkInside {path : Path} (node : FileNode)
    (storable : node.isStorable = true) {found : Path × FileNode}
    (member : .ok found ∈ node.walkInside path) : ∃ names, StandsBelow path node names found := by
  match node with
  | .file _ => cases member
  | .link _ => cases member
  | .locked => cases List.mem_singleton.mp member
  | .directory entries =>
      rcases exists_entry_of_mem_walkEntries entries (entriesStorable_of_directory storable) member
        with ⟨name, node, isEntry, names, stands⟩
      exact ⟨name :: names, stands.of_entry storable isEntry⟩

theorem exists_entry_of_mem_walkEntries {path : Path} (entries : List (String × FileNode))
    (storable : entriesStorable entries = true) {found : Path × FileNode}
    (member : .ok found ∈ walkEntries path entries) :
    ∃ name node, (name, node) ∈ entries ∧
      ∃ names, StandsBelow (path.join ⟨name⟩) node names found := by
  match entries with
  | [] => cases member
  | (name, node) :: rest =>
      rw [entriesStorable, Bool.and_eq_true, Bool.and_eq_true] at storable
      rcases mem_walkEntries_cons.mp member with atEntry | inRest
      · refine ⟨name, node, List.mem_cons_self, ?_⟩
        rcases List.mem_cons.mp atEntry with same | inside
        · cases same
          exact ⟨[], by simp, rfl, rfl⟩
        · exact exists_names_of_mem_walkInside node storable.1.2 inside
      · rcases exists_entry_of_mem_walkEntries rest storable.2 inRest
          with ⟨other, child, isEntry, stands⟩
        exact ⟨other, child, List.mem_cons_of_mem _ isEntry, stands⟩

end

theorem mem_walkEntries_of_mem {path : Path} {entries : List (String × FileNode)} {name : String}
    {node : FileNode} (isEntry : (name, node) ∈ entries) {encounter : Encounter}
    (member : encounter ∈ node.walk (path.join ⟨name⟩)) :
    encounter ∈ walkEntries path entries := by
  induction entries with
  | nil => cases isEntry
  | cons entry rest induction =>
      rcases List.mem_cons.mp isEntry with rfl | inRest
      · exact mem_walkEntries_cons.mpr (.inl member)
      · exact mem_walkEntries_cons.mpr (.inr (induction inRest))

/-- A walk finds whatever stands at the end of names. -/
theorem mem_walk_of_descendant? {path : Path} {node found : FileNode} {names : List String}
    (isNode : node.descendant? names = some found) :
    .ok (path.descend names, found) ∈ node.walk path := by
  induction names generalizing path node with
  | nil =>
      cases isNode
      exact List.mem_cons_self
  | cons name names induction =>
      rcases Option.bind_eq_some_iff.mp isNode with ⟨child, isChild, fromChild⟩
      cases node with
      | file text? => cases isChild
      | link target => cases isChild
      | locked => cases isChild
      | directory entries =>
          rcases List.lookup_eq_some_iff.mp isChild with ⟨front, rest, rfl, _⟩
          have below : .ok ((path.join ⟨name⟩).descend names, found) ∈
              child.walk (path.join ⟨name⟩) :=
            induction fromChild
          exact List.mem_cons_of_mem _ (mem_walkEntries_of_mem (by simp) below)

end FileNode

namespace FileSystem

/-! ## The way to what stands below -/

section

variable {root : FileNode} {links : Nat} {here : List String}

/-- An empty piece at the end does not change where a directory is. -/
theorem leadsTo_of_isFront {front pieces place : List String} {entries : List (String × FileNode)}
    (isFront : pieces = front ∨ pieces = front ++ [""])
    (found : follow root true links here pieces = .ok (.occupied place (.directory entries))) :
    ∃ left, LeadsTo root links here front left place (.directory entries) := by
  rcases isFront with rfl | rfl
  · exact leadsTo_of_found found
  · rcases leads root links here front with ⟨left, there, node, leadsTo⟩ | nowhere
    · rw [leadsTo.onward true [""] (by simp), follow_empty leadsTo.isNode] at found
      split at found
      · cases found
        exact ⟨left, leadsTo⟩
      · cases found
    · rcases nowhere.onward true [""] (by simp) with ⟨failure, fails⟩
      cases found.symm.trans fails

/-- Names lead to what stands below a directory. Only the last of them can be a link, which is
not followed. -/
theorem follow_of_descendant? {names : List String}
    (named : ∀ name ∈ names, FileNode.isEntryName name = true) {node : FileNode}
    (isNode : root.descendant? (here ++ names) = some node) :
    follow root false links here names = .ok (.occupied (here ++ names) node) := by
  induction names generalizing here with
  | nil =>
      rw [List.append_nil] at isNode ⊢
      exact follow_nil isNode
  | cons name names induction =>
      rw [List.forall_mem_cons, FileNode.isEntryName_iff] at named
      have ⟨⟨isName, short, _⟩, others⟩ := named
      have assoc : here ++ name :: names = here ++ [name] ++ names := by simp
      have atChild := isNode
      rw [assoc, FileNode.descendant?_append, Option.bind_eq_some_iff] at atChild
      rcases atChild with ⟨child, isChild, fromChild⟩
      rw [FileNode.descendant?_concat, Option.bind_eq_some_iff] at isChild
      rcases isChild with ⟨outer, isOuter, isChild⟩
      -- Something of this name is in the directory, so the move is a jump or leads down.
      rw [follow_cons isOuter]
      cases move : Move.of name outer with
      | refuse failure =>
          have isListable := FileNode.isListable_of_lookup isChild
          exact absurd (Move.condition_of_eq move isListable) (Nat.not_lt.mpr short)
      | stay =>
          cases (Path.isSignificant_of_isName isName).symm.trans (Move.condition_of_eq move)
      | up => exact absurd (Move.condition_of_eq move).1 (Path.ne_parent_of_isName isName)
      | missing => cases isChild.symm.trans (Move.condition_of_eq move).2.2
      | jump target =>
          cases isChild.symm.trans (Move.condition_of_eq move).2.2
          -- Nothing stands below a link, so it is the last name.
          cases names with
          | nil =>
              cases fromChild
              rfl
          | cons next rest => cases fromChild
      | down =>
          rw [assoc]
          exact induction others (assoc ▸ isNode)

end

section

variable {system : FileSystem} {path : Path}

/-- Where a path leads to a directory, the names of what stands below it lead on to it. -/
theorem exists_place_of_node {entries : List (String × FileNode)}
    (isNode : system.node path = .ok (.directory entries)) :
    ∃ place, system.root.descendant? place = some (.directory entries) ∧
      ∀ name names node, (∀ one ∈ name :: names, FileNode.isEntryName one = true) →
        (FileNode.directory entries).descendant? (name :: names) = some node →
        system.entry (path.descend (name :: names)) = .ok node := by
  rw [node_eq_outcome, locate] at isNode
  split at isNode
  · cases isNode
  next notEmpty =>
  split at isNode
  · cases isNode
  next noEnd =>
  rcases exists_occupied isNode with ⟨place, occupied⟩
  -- The pieces of the path lead to the directory, and the names are followed from there.
  rcases Path.exists_front_descend (system.workingDirectory.join path)
    with ⟨front, isFront, onward⟩
  rcases leadsTo_of_isFront isFront occupied with ⟨left, leads⟩
  refine ⟨place, leads.isNode, fun name names node named isBelow => ?_⟩
  have areNames := FileNode.areNames named
  have alsoNoEnd : ¬(path.descend (name :: names)).text.toList.contains '\x00' = true := by
    simp only [List.contains_eq_mem, decide_eq_true_eq] at noEnd ⊢
    intro member
    rcases Path.mem_or_exists_of_mem_descend areNames (by decide) member
      with inPath | ⟨one, isOne, inside⟩
    · exact noEnd inPath
    · exact (FileNode.isEntryName_iff.mp (named one isOne)).2.2 inside
  have isPlace : system.root.descendant? (place ++ name :: names) = some node := by
    rw [FileNode.descendant?_append, leads.isNode]
    exact isBelow
  rw [entry_eq_outcome, locate, if_neg (Path.text_descend_ne areNames notEmpty), if_neg alsoNoEnd,
    Path.join_descend areNames notEmpty, onward name names areNames,
    leads.onward false _ (by simp), follow_of_descendant? named isPlace]
  rfl

/-- A walk comes to what stands at a path and to what is inside of the node to which the path
leads, unless it leads nowhere. -/
theorem walk_cases (system : FileSystem) (path : Path) :
    (∃ failure, system.walk path = [.error ⟨path, failure⟩]) ∨
      ∃ node behind, system.entry path = .ok node ∧ system.node path = .ok behind ∧
        system.walk path = .ok (path, node) :: behind.walkInside path := by
  have same := system.entry_eq_node_or_link path
  rw [walk]
  cases isEntry : system.entry path with
  | error failure => exact .inl ⟨failure, rfl⟩
  | ok node =>
      rw [isEntry] at same
      -- Only a link can be something else than what the path leads to.
      have direct (noLink : ∀ target, node ≠ .link target) : system.node path = .ok node := by
        rcases same with isNode | ⟨target, isLink⟩
        · exact isNode.symm
        · exact absurd (Except.ok.inj isLink) (noLink target)
      cases node with
      | file text? => exact .inr ⟨_, _, rfl, direct (by simp), rfl⟩
      | directory entries => exact .inr ⟨_, _, rfl, direct (by simp), rfl⟩
      | locked => exact .inr ⟨_, _, rfl, direct (by simp), rfl⟩
      | link target =>
          cases isNode : system.node path with
          | error failure => exact .inl ⟨failure, rfl⟩
          | ok behind => exact .inr ⟨_, _, rfl, rfl, rfl⟩

/-- What a walk finds is what stands at the path itself, or below the directory to which it
leads. -/
theorem mem_walk_cases {found : Path × FileNode} (member : .ok found ∈ system.walk path) :
    (found.1 = path ∧ system.entry path = .ok found.2) ∨
      ∃ entries, system.node path = .ok (.directory entries) ∧
        .ok found ∈ FileNode.walkEntries path entries := by
  rcases system.walk_cases path with ⟨error, isWalk⟩ | ⟨node, behind, isEntry, isNode, isWalk⟩
  · rw [isWalk] at member
    cases List.mem_singleton.mp member
  · rw [isWalk] at member
    rcases List.mem_cons.mp member with same | inside
    · cases same
      exact .inl ⟨rfl, isEntry⟩
    · rcases FileNode.exists_entries_of_mem_walkInside inside with ⟨entries, rfl, below⟩
      exact .inr ⟨entries, isNode, below⟩

variable (storable : system.root.isStorable = true) {found : Path × FileNode}
  (member : .ok found ∈ system.walk path)

include storable member

theorem exists_names_of_mem_walk : ∃ names, (∀ name ∈ names, FileNode.isEntryName name = true) ∧
    found.1 = path.descend names ∧ system.entry (path.descend names) = .ok found.2 := by
  rcases mem_walk_cases member with ⟨atPath, isEntry⟩ | ⟨entries, isNode, below⟩
  · exact ⟨[], by simp, atPath, isEntry⟩
  · rcases exists_place_of_node isNode with ⟨place, isPlace, onward⟩
    have isStorable := FileNode.isStorable_of_descendant? storable isPlace
    rcases FileNode.exists_entry_of_mem_walkEntries entries
      (FileNode.entriesStorable_of_directory isStorable) below
      with ⟨name, node, isEntry, names, stands⟩
    have ⟨named, isPath, isFound⟩ := stands.of_entry isStorable isEntry
    exact ⟨name :: names, named, isPath, onward name names found.2 named isFound⟩

/-- A walk finds at a path what stands there. -/
theorem entry_of_mem_walk : system.entry found.1 = .ok found.2 := by
  rcases exists_names_of_mem_walk storable member with ⟨names, _, isPath, isEntry⟩
  rw [isPath, isEntry]

/-- A walk finds no place in two spellings. -/
theorem eq_of_mem_walk {other : Path × FileNode} (alsoMember : .ok other ∈ system.walk path)
    (samePlace : found.1.components = other.1.components) : found.1 = other.1 := by
  rcases exists_names_of_mem_walk storable member with ⟨names, named, isPath, _⟩
  rcases exists_names_of_mem_walk storable alsoMember with ⟨others, alsoNamed, isOther, _⟩
  rw [isPath, isOther, Path.components_descend (FileNode.areNames named),
    Path.components_descend (FileNode.areNames alsoNamed), List.append_cancel_left_eq] at samePlace
  rw [isPath, isOther, (List.map_inj_right fun _ _ => Component.name.inj).mp samePlace]

end

/-- The path of a file ends in a name. -/
theorem exists_name_of_isFile {system : FileSystem} {path : Path}
    (absolute : path.isAbsolute = true) {text? : Option String}
    (isFile : system.entry path = .ok (.file text?)) :
    ∃ front name, path.EndsIn front name := by
  rw [entry_eq_outcome, locate] at isFile
  split at isFile
  · cases isFile
  split at isFile
  · cases isFile
  rcases exists_occupied isFile with ⟨there, found⟩
  rw [Path.join_of_isAbsolute absolute] at found
  rcases List.eq_nil_or_concat path.body with none | ⟨front, name, isBody⟩
  · exact absurd none (Path.body_ne_nil_of_isAbsolute absolute)
  · rw [List.concat_eq_append] at isBody
    rw [isBody] at found
    rcases isName_of_follow found rfl with ⟨counts, notUp⟩
    have isPiece : name ∈ path.body := by simp [isBody]
    have free : '/' ∉ name.toList := Path.not_mem_of_mem_body isPiece
    exact ⟨front, name, absolute, isBody, by simp [Path.isName, counts, notUp, free]⟩

end FileSystem

end DirectiveScan
