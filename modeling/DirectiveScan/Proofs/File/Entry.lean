import DirectiveScan.Proofs.File.Site
import DirectiveScan.Proofs.File.Stored

namespace DirectiveScan.FileSystem

/-! Entries of directories.

Something is at the path of a name below a directory exactly if the directory has an entry of this
name that leads somewhere. Only a link that leads nowhere is an entry at whose path there is
nothing. -/

/-- Whether a directory has an entry of some name: a file, a directory, or a link wherever it
leads. -/
def HasEntry (system : FileSystem) (directory : Path) (name : String) : Prop :=
  ∃ entries node, system.node directory = .ok (.directory entries) ∧
    entries.lookup name = some node

theorem hasEntry_iff {system : FileSystem} {directory : Path} {name : String} :
    system.HasEntry directory name ↔
      ((system.node directory).toOption.bind (·.entries.lookup name)).isSome = true := by
  rw [HasEntry]
  cases system.node directory with
  | error failure => simp [Except.toOption]
  | ok node => cases node <;> simp [Except.toOption, FileNode.entries, Option.isSome_iff_exists]

instance (system : FileSystem) (directory : Path) (name : String) :
    Decidable (system.HasEntry directory name) :=
  decidable_of_iff _ hasEntry_iff.symm

/-- Whether a directory has an entry of some name that leads somewhere, as all but some links
do. -/
def HasLeadingEntry (system : FileSystem) (directory : Path) (name : String) : Prop :=
  ∃ entries node, system.node directory = .ok (.directory entries) ∧
    entries.lookup name = some node ∧
    ∀ target, node = .link target → system.holds (directory.join ⟨name⟩) = true

theorem holds_iff {system : FileSystem} {path : Path} :
    system.holds path = true ↔ ∃ node, system.node path = .ok node := by
  rw [holds]
  cases system.node path <;> simp [Except.toOption]

/-- Where some pieces lead to a directory, so do the same pieces and an empty one. -/
theorem outcome_follow_isFront_iff {root node : FileNode} {links left : Nat}
    {here front pieces place : List String} {entries : List (String × FileNode)}
    (leadsTo : LeadsTo root links here front left place node)
    (isFront : pieces = front ∨ pieces = front ++ [""]) :
    outcome (follow root true links here pieces) = .ok (.directory entries) ↔
      node = .directory entries := by
  rcases isFront with rfl | rfl
  · rw [leadsTo.found, outcome, Except.ok.injEq]
  · rw [leadsTo.onward true [""] (by simp)]
    rw [follow_empty leadsTo.isNode]
    split
    · rw [outcome, Except.ok.injEq]
    · next noDirectory =>
        refine iff_of_false (fun fails => nomatch fails) fun isDirectory => ?_
        rw [isDirectory] at noDirectory
        exact noDirectory rfl

/-- From a directory, a name leads nowhere, along a link, or to an entry that is no link. -/
theorem follow_name_cases {root : FileNode} {here : List String}
    {entries : List (String × FileNode)}
    (isDirectory : root.descendant? here = some (.directory entries)) {name : String}
    (named : FileNode.isEntryName name = true) (links : Nat) :
    (entries.lookup name = none ∧
      outcome (follow root true links here [name]) = .error .notFound) ∨
    (∃ target, entries.lookup name = some (.link target)) ∨
    ∃ node, entries.lookup name = some node ∧ (∀ target, node ≠ .link target) ∧
      outcome (follow root true links here [name]) = .ok node := by
  have ⟨isName, short, _⟩ := FileNode.isEntryName_iff.mp named
  rw [follow_cons isDirectory]
  cases move : Move.of name (.directory entries) with
  | refuse failure => exact absurd (Move.condition_of_eq move rfl) (Nat.not_lt.mpr short)
  | stay => cases (Path.isSignificant_of_isName isName).symm.trans (Move.condition_of_eq move)
  | up => exact absurd (Move.condition_of_eq move).1 (Path.ne_parent_of_isName isName)
  | missing => exact .inl ⟨(Move.condition_of_eq move).2.2, rfl⟩
  | jump target => exact .inr (.inl ⟨target, (Move.condition_of_eq move).2.2⟩)
  | down =>
      rcases (Move.condition_of_eq move).2.2 with ⟨child, isEntry, noLink⟩
      have isChild : root.descendant? (here ++ [name]) = some child := by
        rw [FileNode.descendant?_concat, isDirectory]
        exact isEntry
      refine .inr (.inr ⟨child, isEntry, noLink, ?_⟩)
      simp only [follow_nil isChild]
      rfl

/-- A way leads to a directory, or else no name leads on from its end. -/
theorem follow_front_cases (root : FileNode) (links : Nat) (here : List String)
    {front pieces : List String} (isFront : pieces = front ∨ pieces = front ++ [""])
    {name : String} (isName : Path.isName name = true) :
    (∃ left place entries, LeadsTo root links here front left place (.directory entries) ∧
      outcome (follow root true links here pieces) = .ok (.directory entries)) ∨
    (∀ entries, outcome (follow root true links here pieces) ≠ .ok (.directory entries)) ∧
      ∃ failure, follow root true links here (front ++ [name]) = .error failure := by
  rcases leads root links here front with ⟨left, place, node, leadsTo⟩ | nowhere
  · cases isListable : node.isListable with
    | true =>
        rcases FileNode.eq_directory_of_isListable isListable with ⟨entries, rfl⟩
        exact .inl ⟨left, place, entries, leadsTo,
          (outcome_follow_isFront_iff leadsTo isFront).mpr rfl⟩
    | false =>
        refine .inr ⟨fun entries found => ?_, ?_⟩
        · rw [(outcome_follow_isFront_iff leadsTo isFront).mp found] at isListable
          cases isListable
        · rw [leadsTo.onward true [name] (by simp)]
          exact follow_name_of_not_listable leadsTo.isNode isListable isName
  · refine .inr ⟨fun entries found => ?_, nowhere.onward true [name] (by simp)⟩
    rcases exists_occupied found with ⟨place, occupied⟩
    rcases isFront with rfl | rfl
    · exact nowhere.nothing _ _ occupied
    · rcases nowhere.onward true [""] (by simp) with ⟨failure, fails⟩
      cases fails.symm.trans occupied

/-- Something is at a path below a directory if the directory has an entry of the name that leads
somewhere. -/
theorem holds_join_iff (system : FileSystem) {directory : Path}
    (absolute : directory.isAbsolute = true) {name : String}
    (named : FileNode.isEntryName name = true) :
    system.holds (directory.join ⟨name⟩) = true ↔ system.HasLeadingEntry directory name := by
  have ⟨isName, _, noEnd⟩ := FileNode.isEntryName_iff.mp named
  have ⟨relative, isBody⟩ := Path.body_of_not_mem (Path.not_mem_of_isName isName)
  rcases Path.exists_front directory with ⟨front, isFront, joined⟩
  have sameEnd : (directory.join ⟨name⟩).text.toList.contains '\x00' =
      directory.text.toList.contains '\x00' := by
    rw [Path.toList_join (Path.text_ne_of_isAbsolute absolute) relative, Path.ended]
    split <;> simp [noEnd]
  have atName : system.node (directory.join ⟨name⟩) =
      if directory.text.toList.contains '\x00' then .error .endInsidePath
      else outcome (follow system.root true linkLimit [] (front ++ [name])) := by
    rw [node_of_isAbsolute _ (Path.join_isAbsolute absolute _), sameEnd, joined _ relative, isBody]
  have atDirectory := node_of_isAbsolute system absolute
  by_cases endInside : directory.text.toList.contains '\x00' = true
  · rw [holds_iff, HasLeadingEntry, atName, atDirectory, if_pos endInside, if_pos endInside]
    simp
  rw [if_neg endInside] at atName atDirectory
  rcases follow_front_cases system.root linkLimit [] isFront isName
    with ⟨left, place, entries, leadsTo, found⟩ | ⟨noDirectory, failure, fails⟩
  · have isDirectory : system.node directory = .ok (.directory entries) := atDirectory.trans found
    rw [leadsTo.onward true [name] (by simp)] at atName
    rcases follow_name_cases leadsTo.isNode named left
      with ⟨missing, fails⟩ | ⟨target, isLink⟩ | ⟨node, isEntry, noLink, found⟩
    · rw [holds_iff, HasLeadingEntry, atName, fails]
      simp [isDirectory, missing]
    · -- Along a link, both sides ask where the path leads.
      rw [HasLeadingEntry, isDirectory]
      simp [isLink]
    · rw [holds_iff, HasLeadingEntry, atName, found, isDirectory]
      simp [isEntry, noLink]
  · rw [← atDirectory] at noDirectory
    rw [holds_iff, HasLeadingEntry, atName, fails]
    simp [noDirectory, outcome]

end DirectiveScan.FileSystem
