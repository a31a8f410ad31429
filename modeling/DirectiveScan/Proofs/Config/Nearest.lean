import DirectiveScan.Config.Load
import DirectiveScan.Proofs.File.Entry
import DirectiveScan.Proofs.Path.Parent

namespace DirectiveScan

/-! The nearest configuration.

The configuration of a directory is looked for in the directory and in those above it, from the
directory up to the root. It is the first one on this way, unless a repository ends before it. A
directory is searched before it can end the way, so a configuration beside the mark of a repository
belongs to the repository. -/

namespace Path

/-- The path some levels above a path. -/
def above? : Nat → Path → Option Path
  | 0, path => some path
  | levels + 1, path => path.parent?.bind (above? levels)

theorem parent?_of_root {path : Path} (absolute : path.isAbsolute = true)
    (isRoot : path.components = [.root]) : path.parent? = none := by
  apply parent?_of_nil
  rw [components_eq_trimmedBody, absolute, if_pos rfl, List.singleton_append, List.cons.injEq,
    List.map_eq_nil_iff] at isRoot
  rcases List.eq_nil_or_concat path.trimmedBody with none | ⟨front, last, trimmed⟩
  · exact none
  · rw [List.concat_eq_append] at trimmed
    rcases significant_or_point trimmed with ⟨counts, _⟩ | ⟨relative, _⟩
    · rw [trimmed, List.filter_append, List.filter_cons_of_pos counts] at isRoot
      simp at isRoot
    · cases absolute.symm.trans relative

/-- The paths above an absolute path are those of the fronts of its components. -/
theorem above?_of_isAbsolute {path : Path} (absolute : path.isAbsolute = true) (levels : Nat) :
    if levels < path.components.length then
      ∃ directory, above? levels path = some directory ∧ directory.isAbsolute = true ∧
        directory.components = path.components.take (path.components.length - levels)
    else above? levels path = none := by
  induction levels generalizing path with
  | zero =>
      rw [if_pos (by rw [components_of_isAbsolute absolute]; simp)]
      exact ⟨path, rfl, absolute, by rw [Nat.sub_zero, List.take_length]⟩
  | succ levels induction =>
      rw [above?]
      by_cases isRoot : path.components = [.root]
      · rw [parent?_of_root absolute isRoot, isRoot, if_neg (by simp)]
        rfl
      · rcases parent?_of_isAbsolute absolute isRoot with ⟨folder, isParent, isAbsolute, components⟩
        have onward := induction isAbsolute
        have shorter : folder.components.length = path.components.length - 1 := by
          rw [components, List.length_dropLast]
        rw [isParent, Option.bind_some]
        split
        · next inside =>
            rw [if_pos (by omega)] at onward
            rcases onward with ⟨directory, isAbove, directoryAbsolute, isFront⟩
            refine ⟨directory, isAbove, directoryAbsolute, ?_⟩
            rw [isFront, shorter, components, List.dropLast_eq_take, List.take_take]
            congr 1
            omega
        · rwa [if_neg (by omega)] at onward

end Path

namespace Config

open Path

theorem getElem?_ancestors (bound : Nat) (path : Path) (levels : Nat) :
    (ancestors bound path)[levels]? = if levels ≤ bound then above? levels path else none := by
  induction bound generalizing path levels with
  | zero => cases levels <;> simp [ancestors, above?]
  | succ bound induction =>
      rw [ancestors]
      cases isParent : path.parent? with
      | none => cases levels <;> simp [above?, isParent]
      | some parent => cases levels <;> simp [above?, isParent, induction]

/-- The directories that are searched are the directory and all that stand above it. -/
theorem getElem?_ancestors_of_isAbsolute {directory : Path}
    (absolute : directory.isAbsolute = true) (levels : Nat) :
    (ancestors directory.body.length directory)[levels]? = above? levels directory := by
  rw [getElem?_ancestors]
  split
  · rfl
  · next far =>
      have beyond : ¬levels < directory.components.length := by
        have fewer := List.length_filter_le isSignificant directory.body
        rw [components_of_isAbsolute absolute, List.length_cons, List.length_map]
        omega
      have nothing := above?_of_isAbsolute absolute levels
      rw [if_neg beyond] at nothing
      exact nothing.symm

/-! ## The way up -/

section

variable {system : FileSystem} {found : Path}

theorem findIn?_eq_some_iff {directories : List Path} :
    findIn? system directories = some found ↔
      ∃ (levels : Nat) (directory : Path), directories[levels]? = some directory ∧
        system.holds (directory.join fileName) = true ∧ found = directory.join fileName ∧
        ∀ fewer < levels, ∀ below : Path, directories[fewer]? = some below →
          ¬system.holds (below.join fileName) = true ∧
            ¬system.holds (below.join repositoryMark) = true := by
  induction directories with
  | nil => simp [findIn?]
  | cons first rest induction =>
      rw [findIn?]
      split
      · next configured =>
          constructor
          · intro isFound
            exact ⟨0, first, rfl, configured, (Option.some.inj isFound).symm, by simp⟩
          · rintro ⟨levels, directory, isDirectory, holds, rfl, before⟩
            cases levels with
            | zero =>
                cases isDirectory
                rfl
            | succ levels => exact absurd configured (before 0 (by omega) first rfl).1
      split
      · next notConfigured isRepository =>
          refine iff_of_false (by simp) ?_
          rintro ⟨levels, directory, isDirectory, holds, rfl, before⟩
          cases levels with
          | zero =>
              cases isDirectory
              exact notConfigured holds
          | succ levels => exact absurd isRepository (before 0 (by omega) first rfl).2
      · next notConfigured notRepository =>
          rw [induction]
          constructor
          · rintro ⟨levels, directory, isDirectory, holds, same, before⟩
            refine ⟨levels + 1, directory, isDirectory, holds, same, ?_⟩
            intro fewer less below isBelow
            cases fewer with
            | zero =>
                cases isBelow
                exact ⟨notConfigured, notRepository⟩
            | succ fewer => exact before fewer (by omega) below isBelow
          · rintro ⟨levels, directory, isDirectory, holds, same, before⟩
            cases levels with
            | zero =>
                cases isDirectory
                exact absurd holds notConfigured
            | succ levels =>
                refine ⟨levels, directory, isDirectory, holds, same, ?_⟩
                intro fewer less below isBelow
                exact before (fewer + 1) (by omega) below isBelow

end

/-- Whether the configuration of a directory is that of the directory some levels above: the
first one on the way up that has a configuration file, and no repository ends below it. What it
is to have an entry is left open. -/
structure IsNearest (has : Path → String → Prop) (directory : Path) (levels : Nat)
    (above : Path) : Prop where
  isAbove : above? levels directory = some above
  configured : has above fileName.text
  first : ∀ fewer < levels, ∀ below, above? fewer directory = some below →
    ¬has below fileName.text
  inside : ∀ fewer < levels, ∀ below, above? fewer directory = some below →
    ¬has below repositoryMark.text

section

variable {system : FileSystem} {directory : Path} (absolute : directory.isAbsolute = true)

include absolute

theorem isAbsolute_of_above? {levels : Nat} {above : Path}
    (isAbove : above? levels directory = some above) : above.isAbsolute = true := by
  have reached := above?_of_isAbsolute absolute levels
  split at reached
  · rcases reached with ⟨other, isOther, otherAbsolute, _⟩
    cases isAbove.symm.trans isOther
    exact otherAbsolute
  · cases isAbove.symm.trans reached

theorem find?_eq_some_iff {found : Path} :
    find? system directory = some found ↔
      ∃ levels above, IsNearest system.HasLeadingEntry directory levels above ∧
        found = above.join fileName := by
  have configured_iff {levels : Nat} {above : Path}
      (isAbove : above? levels directory = some above) :
      system.holds (above.join fileName) = true ↔
        system.HasLeadingEntry above fileName.text :=
    system.holds_join_iff (isAbsolute_of_above? absolute isAbove) (by decide)
  have repository_iff {levels : Nat} {above : Path}
      (isAbove : above? levels directory = some above) :
      system.holds (above.join repositoryMark) = true ↔
        system.HasLeadingEntry above repositoryMark.text :=
    system.holds_join_iff (isAbsolute_of_above? absolute isAbove) (by decide)
  rw [find?, findIn?_eq_some_iff]
  simp only [getElem?_ancestors_of_isAbsolute absolute]
  constructor
  · rintro ⟨levels, above, isAbove, holds, same, before⟩
    refine ⟨levels, above, ⟨isAbove, (configured_iff isAbove).mp holds, ?_, ?_⟩, same⟩
    · intro fewer less below isBelow
      rw [← configured_iff isBelow]
      exact (before fewer less below isBelow).1
    · intro fewer less below isBelow
      rw [← repository_iff isBelow]
      exact (before fewer less below isBelow).2
  · rintro ⟨levels, above, ⟨isAbove, configured, first, inside⟩, same⟩
    refine ⟨levels, above, isAbove, (configured_iff isAbove).mpr configured, same, ?_⟩
    intro fewer less below isBelow
    rw [configured_iff isBelow, repository_iff isBelow]
    exact ⟨first fewer less below isBelow, inside fewer less below isBelow⟩

/-- The configuration of a directory is that of the nearest configured directory at or above it,
unless a repository ends below that one; then, and if no directory is configured, there is none.
A link that leads nowhere neither configures a directory nor marks a repository. The directories
that count are those of the fronts of the path, down from the root. What is found never lies above
the root of a repository, but may lie beside its mark. -/
theorem nearest_configuration (system : FileSystem) :
    (∀ found, find? system directory = some found ↔
      ∃ levels above, IsNearest system.HasLeadingEntry directory levels above ∧
        found = above.join fileName) ∧
    (find? system directory = none ↔
      ∀ levels above, ¬IsNearest system.HasLeadingEntry directory levels above) ∧
    (∀ levels, if levels < directory.components.length then
        ∃ above, above? levels directory = some above ∧
          above.components = directory.components.take (directory.components.length - levels)
      else above? levels directory = none) ∧
    ∀ found, find? system directory = some found →
      ∀ levels repository, above? levels directory = some repository →
        system.HasLeadingEntry repository repositoryMark.text →
        ∃ fewer ≤ levels, ∃ above, above? fewer directory = some above ∧
          found = above.join fileName := by
  refine ⟨fun found => find?_eq_some_iff absolute, ?_, fun levels => ?_, ?_⟩
  · rw [Option.eq_none_iff_forall_ne_some]
    simp only [ne_eq, find?_eq_some_iff absolute]
    constructor
    · intro nothing levels above nearest
      exact nothing _ ⟨levels, above, nearest, rfl⟩
    · rintro nothing found ⟨levels, above, nearest, _⟩
      exact nothing levels above nearest
  · have reached := above?_of_isAbsolute absolute levels
    split at reached
    · next inside =>
        rcases reached with ⟨above, isAbove, _, components⟩
        rw [if_pos inside]
        exact ⟨above, isAbove, components⟩
    · next outside => rwa [if_neg outside]
  · intro found isFound levels repository isAbove isRepository
    rcases (find?_eq_some_iff absolute).mp isFound with ⟨fewer, above, nearest, same⟩
    refine ⟨fewer, Nat.le_of_not_lt fun further => ?_, above, nearest.isAbove, same⟩
    exact nearest.inside levels further repository isAbove isRepository

end

/-- A repository with a configuration, in a directory that has another one. -/
def shelf : FileSystem where
  root := .directory [("home", .directory
    [(".heklarc.json", .file (some "")),
      ("shop", .directory
        [(".git", .directory []), (".heklarc.json", .file (some "")),
          ("app", .directory [("src", .directory [])])])])]
  workingDirectory := ⟨"/"⟩

theorem shop_configured_beside_its_mark :
    let directory : Path := ⟨"/home/shop/app//src"⟩
    directory.isAbsolute = true ∧
      find? shelf directory = some ⟨"/home/shop/.heklarc.json"⟩ ∧
      ∃ levels above, IsNearest shelf.HasLeadingEntry directory levels above ∧
        ⟨"/home/shop/.heklarc.json"⟩ = above.join fileName := by
  intro directory
  have absolute : directory.isAbsolute = true := by decide
  have isFound : find? shelf directory = some ⟨"/home/shop/.heklarc.json"⟩ := by decide +kernel
  rcases nearest_configuration absolute shelf with ⟨finds, _⟩
  exact ⟨absolute, isFound, (finds _).mp isFound⟩

/-- A directory with a configuration, and in it one whose mark of a repository is a link that
leads nowhere. -/
def attic : FileSystem where
  root := .directory [("a", .directory
    [(".heklarc.json", .file (some "")), ("b", .directory [(".git", .link ⟨"nowhere"⟩)])])]
  workingDirectory := ⟨"/"⟩

/-- Above a directory with such a mark, a configuration is found all the same. -/
theorem found_above_broken_mark :
    let directory : Path := ⟨"/a/b"⟩
    attic.HasEntry directory repositoryMark.text ∧
      find? attic directory = some ⟨"/a/.heklarc.json"⟩ ∧
      ¬∃ levels above, IsNearest attic.HasEntry directory levels above ∧
        ⟨"/a/.heklarc.json"⟩ = above.join fileName := by
  intro directory
  have isMarked : attic.HasEntry directory repositoryMark.text := by decide +kernel
  refine ⟨isMarked, by decide +kernel, ?_⟩
  rintro ⟨levels, above, nearest, same⟩
  cases levels with
  | zero =>
      cases nearest.isAbove
      exact absurd same (by decide)
  | succ levels => exact nearest.inside 0 (Nat.succ_pos levels) directory rfl isMarked

end Config

end DirectiveScan
