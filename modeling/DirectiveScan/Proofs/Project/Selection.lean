import DirectiveScan.Proofs.File.Stored
import DirectiveScan.Proofs.Project.Location

namespace DirectiveScan

/-! What is included in a discovery and what is left out of it.

A file is found if one of the texts to include offers it and none of the texts to ignore leaves
it out. Which texts there are counts, not their order and how often they stand there. -/

open Glob

namespace Discovery

/-- Whether a file at some place is found. -/
def Finds (discovery : Discovery) (place : List Component) : Prop :=
  ∃ path ∈ discovery.files, path.components = place

instance (discovery : Discovery) (place : List Component) : Decidable (discovery.Finds place) :=
  inferInstanceAs (Decidable (∃ path ∈ _, _))

/-- Whether a text to ignore leaves a path out: as a path at or above it, or as a pattern. -/
def LeavesOut (base : Path) (text : String) (path : Path) : Prop :=
  if Pattern.isMeant text then
    ∃ pattern, Pattern.read text = .ok pattern ∧ pattern.accepts path.text = true
  else path.isBelow (base.join ⟨text⟩) = true

/-- All texts that leave paths out. -/
def ignored (ignores : List String) (ignoreTestFiles : Bool) : List String :=
  ignores ++ if ignoreTestFiles then testFilePatterns else []

/-- Whether a source file is at or below a root. -/
def Offers (system : FileSystem) (base : Path) (includes : List String) (path : Path) : Prop :=
  path.isSourceFile = true ∧ ∃ root ∈ roots system base includes, path ∈ Site.filesAt system root

/-- Whether a path is offered and no text leaves it out. -/
def Keeps (system : FileSystem) (base : Path) (includes ignores : List String)
    (ignoreTestFiles : Bool) (path : Path) : Prop :=
  Offers system base includes path ∧
    ∀ text ∈ ignored ignores ignoreTestFiles, ¬LeavesOut base text path

section

variable {system : FileSystem} {base : Path} {includes ignores : List String}
  {ignoreTestFiles : Bool} {path : Path}

theorem mem_ignored_iff {text : String} :
    text ∈ ignored ignores ignoreTestFiles ↔
      text ∈ ignores ∨ (ignoreTestFiles = true ∧ text ∈ testFilePatterns) := by
  cases ignoreTestFiles <;> simp [ignored]

theorem isMeant_of_mem_testFilePatterns :
    ∀ text ∈ testFilePatterns, Pattern.isMeant text = true := by
  decide

theorem mem_paths_iff {ancestor : Path} :
    ancestor ∈ (exclusion base ignores ignoreTestFiles).paths ↔
      ∃ text ∈ ignored ignores ignoreTestFiles,
        Pattern.isMeant text = false ∧ base.join ⟨text⟩ = ancestor := by
  have noTest (text : String) (isPath : Pattern.isMeant text = false) :
      text ∉ testFilePatterns := by
    intro member
    cases (isMeant_of_mem_testFilePatterns text member).symm.trans isPath
  simp only [exclusion, ignored, List.mem_map, List.mem_filter, Bool.not_eq_true',
    List.mem_append, and_assoc]
  apply exists_congr
  intro text
  apply and_congr_left
  intro shape
  cases ignoreTestFiles <;> simp [noTest text shape.1]

theorem mem_patterns_iff {pattern : Pattern} :
    pattern ∈ (exclusion base ignores ignoreTestFiles).patterns ↔
      ∃ text ∈ ignored ignores ignoreTestFiles,
        Pattern.isMeant text = true ∧ Pattern.read text = .ok pattern := by
  have ofTests : (∃ text ∈ testFilePatterns, Pattern.read text = .ok pattern) ↔
      ∃ text ∈ testFilePatterns, Pattern.isMeant text = true ∧ Pattern.read text = .ok pattern := by
    apply exists_congr
    intro text
    apply and_congr_right
    intro member
    simp [isMeant_of_mem_testFilePatterns text member]
  cases ignoreTestFiles with
  | false => simp [exclusion, ignored, mem_patternsOf_iff, and_assoc]
  | true => simp [exclusion, ignored, mem_patternsOf_iff, and_assoc, ofTests, or_and_right,
      exists_or]

theorem excludes_iff :
    (exclusion base ignores ignoreTestFiles).excludes path = true ↔
      ∃ text ∈ ignored ignores ignoreTestFiles, LeavesOut base text path := by
  rw [Exclusion.excludes, Bool.or_eq_true, List.any_eq_true, List.any_eq_true]
  constructor
  · rintro (⟨ancestor, member, isBelow⟩ | ⟨pattern, member, accepts⟩)
    · rcases mem_paths_iff.mp member with ⟨text, isIgnored, isPath, rfl⟩
      exact ⟨text, isIgnored, by rwa [LeavesOut, isPath]⟩
    · rcases mem_patterns_iff.mp member with ⟨text, isIgnored, isMeant, isRead⟩
      refine ⟨text, isIgnored, ?_⟩
      rw [LeavesOut, if_pos isMeant]
      exact ⟨pattern, isRead, accepts⟩
  · rintro ⟨text, isIgnored, leavesOut⟩
    rw [LeavesOut] at leavesOut
    split at leavesOut
    · next isMeant =>
        rcases leavesOut with ⟨pattern, isRead, accepts⟩
        exact .inr ⟨pattern, mem_patterns_iff.mpr ⟨text, isIgnored, isMeant, isRead⟩, accepts⟩
    · next isPath =>
        exact .inl ⟨_, mem_paths_iff.mpr ⟨text, isIgnored, by simpa using isPath, rfl⟩, leavesOut⟩

theorem mem_filesBelow_iff {root : Path} :
    path ∈ filesBelow system (exclusion base ignores ignoreTestFiles) root ↔
      path ∈ Site.filesAt system root ∧ path.isSourceFile = true ∧
        ∀ text ∈ ignored ignores ignoreTestFiles, ¬LeavesOut base text path := by
  have kept_iff : (exclusion base ignores ignoreTestFiles).excludes path = false ↔
      ∀ text ∈ ignored ignores ignoreTestFiles, ¬LeavesOut base text path := by
    rw [← Bool.not_eq_true, excludes_iff]
    simp
  rw [filesBelow_eq, List.mem_filter, Bool.and_eq_true, Bool.not_eq_true', kept_iff,
    and_comm (a := path.isSourceFile = true)]

/-- The files below the roots are those that are kept, before they are put in order. -/
theorem mem_flatMap_filesBelow_iff :
    path ∈ (roots system base includes).flatMap
        (filesBelow system (exclusion base ignores ignoreTestFiles)) ↔
      Keeps system base includes ignores ignoreTestFiles path := by
  simp only [List.mem_flatMap, mem_filesBelow_iff, Keeps, Offers]
  constructor
  · rintro ⟨root, isRoot, found, isSource, kept⟩
    exact ⟨⟨isSource, root, isRoot, found⟩, kept⟩
  · rintro ⟨⟨isSource, root, isRoot, found⟩, kept⟩
    exact ⟨root, isRoot, found, isSource, kept⟩

theorem finds_iff {place : List Component} :
    (discover system base includes ignores ignoreTestFiles).Finds place ↔
      ∃ path, Keeps system base includes ignores ignoreTestFiles path ∧
        path.components = place := by
  rw [Finds, discover, Path.exists_mem_ordered_iff]
  simp only [mem_flatMap_filesBelow_iff]

theorem keeps_of_mem_files
    (member : path ∈ (discover system base includes ignores ignoreTestFiles).files) :
    Keeps system base includes ignores ignoreTestFiles path :=
  mem_flatMap_filesBelow_iff.mp (Path.mem_of_mem_ordered member)

/-! ## Texts to include -/

theorem roots_append {left right : List String} (leftSome : left ≠ []) (rightSome : right ≠ []) :
    roots system base (left ++ right) = roots system base left ++ roots system base right := by
  rw [roots, roots, roots, if_neg (by simp [leftSome]), if_neg (by simpa using leftSome),
    if_neg (by simpa using rightSome), List.flatMap_append]

theorem offers_append_iff {left right : List String} (leftSome : left ≠ [])
    (rightSome : right ≠ []) :
    Offers system base (left ++ right) path ↔
      Offers system base left path ∨ Offers system base right path := by
  simp only [Offers, roots_append leftSome rightSome, List.mem_append, or_and_right, exists_or,
    and_or_left]

theorem offers_congr {others : List String} (same : ∀ text, text ∈ includes ↔ text ∈ others) :
    Offers system base includes path ↔ Offers system base others path := by
  have sameRoots (root : Path) :
      root ∈ roots system base includes ↔ root ∈ roots system base others := by
    have bothEmpty : includes.isEmpty = others.isEmpty := by
      rw [Bool.eq_iff_iff, List.isEmpty_iff, List.isEmpty_iff, List.eq_nil_iff_forall_not_mem,
        List.eq_nil_iff_forall_not_mem]
      simp only [same]
    rw [roots, roots, bothEmpty]
    split
    · rfl
    · simp only [List.mem_flatMap, same]
  simp only [Offers, sameRoots]

/-! ## Files of a tree that can be stored -/

theorem mem_filesAt_iff {root : Path} :
    path ∈ Site.filesAt system root ↔
      ∃ text?, .ok (path, .file text?) ∈ system.walk root := by
  simp only [Site.filesAt, Site.filesOf, List.mem_map, List.mem_filter, List.mem_filterMap]
  constructor
  · rintro ⟨⟨_, node⟩, ⟨⟨encounter, member, isOk⟩, isFile⟩, rfl⟩
    cases encounter with
    | error error => cases isOk
    | ok found =>
        cases isOk
        cases node with
        | file text? => exact ⟨text?, member⟩
        | link target => cases isFile
        | directory entries => cases isFile
        | locked => cases isFile
  · rintro ⟨text?, member⟩
    exact ⟨_, ⟨⟨_, member, rfl⟩, rfl⟩, rfl⟩

section

variable (storable : system.root.isStorable = true)

include storable

theorem isFile_of_mem_filesAt {root : Path} (found : path ∈ Site.filesAt system root) :
    ∃ text?, system.entry path = .ok (.file text?) := by
  rcases mem_filesAt_iff.mp found with ⟨text?, member⟩
  exact ⟨text?, FileSystem.entry_of_mem_walk storable member⟩

theorem eq_of_mem_filesAt {root other : Path} (found : path ∈ Site.filesAt system root)
    (alsoFound : other ∈ Site.filesAt system root)
    (samePlace : path.components = other.components) : path = other := by
  rcases mem_filesAt_iff.mp found with ⟨_, member⟩
  rcases mem_filesAt_iff.mp alsoFound with ⟨_, alsoMember⟩
  exact FileSystem.eq_of_mem_walk storable member alsoMember samePlace

end

theorem exists_extension_of_isSourceFile (isSource : path.isSourceFile = true) :
    ∃ extension ∈ Path.sourceExtensions, path.extension? = some extension := by
  rw [Path.isSourceFile, Option.any_eq_true] at isSource
  rcases isSource with ⟨extension, isExtension, isListed⟩
  exact ⟨extension, by simpa using isListed, isExtension⟩

/-! ## Texts to ignore -/

theorem finds_of_subset {further : List String} (isSubset : ignores ⊆ further)
    {place : List Component}
    (found : (discover system base includes further ignoreTestFiles).Finds place) :
    (discover system base includes ignores ignoreTestFiles).Finds place := by
  rcases finds_iff.mp found with ⟨path, ⟨offers, kept⟩, atPlace⟩
  refine finds_iff.mpr ⟨path, ⟨offers, fun text isIgnored => kept text ?_⟩, atPlace⟩
  rw [mem_ignored_iff] at isIgnored ⊢
  exact isIgnored.imp_left fun member => isSubset member

/-- Below a single root a place is only found in one spelling, so what leaves it out of one
discovery leaves it out of the other. -/
theorem finds_append_ignores_iff (storable : system.root.isStorable = true)
    {first second : List String} {place : List Component} :
    (discover system base [] (first ++ second) ignoreTestFiles).Finds place ↔
      (discover system base [] first ignoreTestFiles).Finds place ∧
        (discover system base [] second ignoreTestFiles).Finds place := by
  constructor
  · intro found
    exact ⟨finds_of_subset (List.subset_append_left first second) found,
      finds_of_subset (List.subset_append_right first second) found⟩
  · rintro ⟨found, alsoFound⟩
    rcases finds_iff.mp found with ⟨path, ⟨offers, kept⟩, rfl⟩
    rcases finds_iff.mp alsoFound with ⟨other, ⟨alsoOffers, alsoKept⟩, samePlace⟩
    -- Both files are found by the walk of the only root, so they are the same path.
    have atBase {path : Path} (offers : Offers system base [] path) :
        path ∈ Site.filesAt system base := by
      rcases offers.2 with ⟨root, isRoot, found⟩
      exact List.mem_singleton.mp isRoot ▸ found
    cases eq_of_mem_filesAt storable (atBase alsoOffers) (atBase offers) samePlace
    refine finds_iff.mpr ⟨path, ⟨offers, fun text isIgnored => ?_⟩, rfl⟩
    rw [mem_ignored_iff, List.mem_append, or_assoc] at isIgnored
    rcases isIgnored with inFirst | inOthers
    · exact kept text (mem_ignored_iff.mpr (.inl inFirst))
    · exact alsoKept text (mem_ignored_iff.mpr inOthers)

end

/-- Texts to include unite what they find, texts to ignore take from it, and neither order nor
repetition counts. What is left are source files that nothing to ignore leaves out. -/
theorem includes_unite_and_ignores_subtract (system : FileSystem)
    (storable : system.root.isStorable = true) (base : Path) (ignoreTestFiles : Bool) :
    let scan (includes ignores : List String) :=
      discover system base includes ignores ignoreTestFiles
    (∀ left right ignores, left ≠ [] → right ≠ [] →
      (∀ place, (scan (left ++ right) ignores).Finds place ↔
        (scan left ignores).Finds place ∨ (scan right ignores).Finds place) ∧
      (scan (left ++ right) ignores).skipped =
        (scan left ignores).skipped + (scan right ignores).skipped) ∧
    (∀ includes others ignores further, (∀ text, text ∈ includes ↔ text ∈ others) →
      (∀ text, text ∈ ignores ↔ text ∈ further) →
      ∀ place, (scan includes ignores).Finds place ↔ (scan others further).Finds place) ∧
    (∀ includes ignores further, ignores ⊆ further →
      ∀ place, (scan includes further).Finds place → (scan includes ignores).Finds place) ∧
    (∀ first second place, (scan [] (first ++ second)).Finds place ↔
      (scan [] first).Finds place ∧ (scan [] second).Finds place) ∧
    ∀ includes ignores, ∀ path ∈ (scan includes ignores).files,
      (∃ text?, system.entry path = .ok (.file text?)) ∧
      (∃ extension ∈ Path.sourceExtensions, path.extension? = some extension) ∧
      ∀ text ∈ ignored ignores ignoreTestFiles, ¬LeavesOut base text path := by
  intro scan
  refine ⟨fun left right ignores leftSome rightSome => ⟨fun place => ?_, ?_⟩,
    fun includes others ignores further sameIncludes sameIgnores place => ?_,
    fun includes ignores further isSubset place => finds_of_subset isSubset,
    fun first second place => finds_append_ignores_iff storable,
    fun includes ignores path member => ?_⟩
  · simp only [scan, finds_iff, Keeps, offers_append_iff leftSome rightSome, or_and_right,
      exists_or]
  · simp only [scan, discover, roots_append leftSome rightSome, List.flatMap_append,
      List.length_append]
  · have sameOffers : (scan includes ignores).Finds place ↔ (scan others ignores).Finds place := by
      simp only [scan, finds_iff, Keeps, offers_congr sameIncludes]
    rw [sameOffers]
    exact ⟨finds_of_subset fun text => (sameIgnores text).mpr,
      finds_of_subset fun text => (sameIgnores text).mp⟩
  · rcases keeps_of_mem_files member with ⟨⟨isSource, root, _, found⟩, kept⟩
    exact ⟨isFile_of_mem_filesAt storable found, exists_extension_of_isSourceFile isSource, kept⟩

/-- A project with one directory inside another, which holds one that is locked. -/
def nested : FileSystem where
  root := .directory [("work", .directory [("src", .directory
    [("app.js", .file (some "")), ("app.spec.js", .file (some "")),
      ("lib", .directory
        [("util.ts", .file (some "")), ("notes.md", .file (some "")), ("private", .locked)])])])]
  workingDirectory := ⟨"/"⟩

/-- A file in two of the directories to include is found by either of them, and not any more
once one of them is to be ignored. The locked directory counts for each of them. -/
theorem util_found_in_nested_directories :
    let scan (includes ignores : List String) := discover nested ⟨"work"⟩ includes ignores true
    let util := [Component.name "work", .name "src", .name "lib", .name "util.ts"]
    nested.root.isStorable = true ∧
      (scan (["s?c"] ++ ["./src/lib/"]) ["**/app.js"]).Finds util ∧
      (scan (["s?c"] ++ ["./src/lib/"]) ["**/app.js"]).skipped = 2 ∧
      (scan ["./src/lib/", "s?c", "s?c"] ["**/app.js"]).Finds util ∧
      ¬(scan [] (["**/app.js"] ++ ["src/lib"])).Finds util := by
  intro scan util
  have storable : nested.root.isStorable = true := by decide +kernel
  rcases includes_unite_and_ignores_subtract nested storable ⟨"work"⟩ true
    with ⟨unite, reorder, _, meet, _⟩
  have ⟨union, sum⟩ := unite ["s?c"] ["./src/lib/"] ["**/app.js"] (by simp) (by simp)
  have found : (scan (["s?c"] ++ ["./src/lib/"]) ["**/app.js"]).Finds util := by
    rw [union]
    exact .inl (by decide +kernel)
  refine ⟨storable, found, ?_, ?_, fun notIgnored => ?_⟩
  · rw [sum]
    decide +kernel
  · have sameTexts (text : String) :
        text ∈ ["s?c"] ++ ["./src/lib/"] ↔ text ∈ ["./src/lib/", "s?c", "s?c"] := by
      simp [or_comm]
    exact (reorder _ _ _ _ sameTexts (fun _ => Iff.rfl) util).mp found
  · exact absurd ((meet _ _ _).mp notIgnored).2 (by decide +kernel)

end Discovery

end DirectiveScan
