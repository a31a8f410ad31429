import DirectiveScan.Proofs.Project.Absolute
import DirectiveScan.Proofs.Project.Selection

namespace DirectiveScan

/-! A directory to ignore, as a path and as a pattern.

As a path it is joined to the directory of the project and compared by components. As a pattern
it is matched with the whole text of each path, so it leaves out nothing of a project that is
named by an absolute path. -/

open Glob

namespace Discovery

/-- Whether names can be written down in a pattern without being read as wildcards. -/
def ArePlainNames (names : List String) : Prop :=
  ∀ name ∈ names, Path.isName name = true ∧ isPlain name.toList = true

/-- The relative path of a directory. -/
def folder (names : List String) : String := "/".intercalate names

theorem folder_cons_cons (name next : String) (names : List String) :
    (folder (name :: next :: names)).toList =
      name.toList ++ '/' :: (folder (next :: names)).toList := by
  rw [folder, folder, String.intercalate_cons_cons, String.toList_append, String.toList_append,
    List.append_assoc]
  rfl

theorem isPlain_folder {names : List String} (plain : ArePlainNames names) :
    isPlain (folder names).toList = true := by
  induction names with
  | nil => rfl
  | cons name names induction =>
      have ⟨ofName, others⟩ := List.forall_mem_cons.mp plain
      cases names with
      | nil => rw [folder, String.intercalate_singleton, ofName.2]
      | cons next names =>
          rw [folder_cons_cons, isPlain, List.all_append, List.all_cons, Bool.and_eq_true,
            Bool.and_eq_true]
          exact ⟨ofName.2, by decide, induction others⟩

theorem head?_folder_ne {names : List String} (notEmpty : names ≠ [])
    (plain : ArePlainNames names) (behind : List Char) :
    ((folder names).toList ++ behind).head? ≠ some '/' := by
  cases names with
  | nil => exact absurd rfl notEmpty
  | cons name names =>
      have isName := (List.forall_mem_cons.mp plain).1.1
      have front : ∃ rest, (folder (name :: names)).toList = name.toList ++ rest := by
        cases names with
        | nil => exact ⟨[], by rw [folder, String.intercalate_singleton, List.append_nil]⟩
        | cons next names => exact ⟨_, folder_cons_cons name next names⟩
      rcases front with ⟨rest, isFront⟩
      cases characters : name.toList with
      | nil =>
          have empty : name = "" := String.toList_injective characters
          rw [empty] at isName
          cases isName
      | cons first others =>
          -- The path starts with the first name, and a name holds no slash.
          have free := Path.not_mem_of_isName isName
          rw [isFront, characters]
          rintro isSlash
          cases isSlash
          exact free (characters ▸ List.mem_cons_self)

section

variable {names : List String} (plain : ArePlainNames names) (base path : Path)

include plain

theorem leavesOut_folder_iff :
    LeavesOut base (folder names) path ↔
      (base.join ⟨folder names⟩).components <+: path.components := by
  rw [LeavesOut, isMeant_of_isPlain (isPlain_folder plain), if_neg (by decide), Path.isBelow,
    List.isPrefixOf_iff_prefix]

theorem leavesOut_belowPattern_iff :
    LeavesOut base (belowPattern (folder names)) path ↔
      (folder names).toList ++ ['/'] <+: path.text.toList := by
  rw [LeavesOut, if_pos (isMeant_belowPattern _), read_belowPattern (isPlain_folder plain)]
  simp [Pattern.accepts, matchesTokens_below]

/-- A pattern for a relative path leaves out no absolute path. -/
theorem not_leavesOut_belowPattern (notEmpty : names ≠ []) {path : Path}
    (absolute : path.isAbsolute = true) : ¬LeavesOut base (belowPattern (folder names)) path := by
  rw [leavesOut_belowPattern_iff plain]
  rintro ⟨rest, isText⟩
  -- An absolute path starts with a slash, and so would the path of the directory.
  rw [Path.isAbsolute_iff, ← isText, List.append_assoc] at absolute
  exact head?_folder_ne notEmpty plain _ absolute

end

theorem isAbsolute_of_offers {system : FileSystem} {base path : Path} {includes : List String}
    (absolute : base.isAbsolute = true) (offers : Offers system base includes path) :
    path.isAbsolute = true := by
  rcases offers.2 with ⟨root, isRoot, found⟩
  rcases mem_filesAt_iff.mp found with ⟨_, member⟩
  exact FileSystem.isAbsolute_of_mem_walk (isAbsolute_of_mem_roots absolute isRoot) member

section

variable {system : FileSystem} {base : Path} {includes before behind : List String}
  {ignoreTestFiles : Bool}

theorem mem_ignored_insert_iff {text other : String} :
    other ∈ ignored (before ++ text :: behind) ignoreTestFiles ↔
      other = text ∨ other ∈ ignored (before ++ behind) ignoreTestFiles := by
  simp only [mem_ignored_iff, List.mem_append, List.mem_cons]
  tauto

theorem keeps_insert_iff {text : String} {path : Path} :
    Keeps system base includes (before ++ text :: behind) ignoreTestFiles path ↔
      Keeps system base includes (before ++ behind) ignoreTestFiles path ∧
        ¬LeavesOut base text path := by
  simp only [Keeps, mem_ignored_insert_iff, or_imp, forall_and, forall_eq, and_assoc]
  exact and_congr_right fun _ => and_comm

/-- A text that leaves out nothing of what is offered does not change a discovery. -/
theorem discover_insert_eq {text : String}
    (leavesIn : ∀ path, Offers system base includes path → ¬LeavesOut base text path) :
    discover system base includes (before ++ text :: behind) ignoreTestFiles =
      discover system base includes (before ++ behind) ignoreTestFiles := by
  have sameFiles : ∀ root ∈ roots system base includes,
      filesBelow system (exclusion base (before ++ text :: behind) ignoreTestFiles) root =
        filesBelow system (exclusion base (before ++ behind) ignoreTestFiles) root := by
    intro root isRoot
    rw [filesBelow_eq, filesBelow_eq]
    apply List.filter_congr
    intro path found
    cases isSource : path.isSourceFile with
    | false => rw [Bool.and_false, Bool.and_false]
    | true =>
        have offers : Offers system base includes path := ⟨isSource, root, isRoot, found⟩
        rw [Bool.and_true, Bool.and_true, Bool.not_inj_iff, Bool.eq_iff_iff, excludes_iff,
          excludes_iff]
        simp [mem_ignored_insert_iff, leavesIn path offers]
  rw [discover, discover, List.flatMap_congr sameFiles]

end

/-- As a path, a directory to ignore takes all that lies below it in the project. As a pattern
it takes the files whose text starts with it, so from a directory that is named by an absolute
path it takes nothing, and both forms agree only where there is nothing to take. -/
theorem ignored_as_path_or_as_pattern (system : FileSystem) (base : Path)
    (includes before behind : List String) (ignoreTestFiles : Bool) {names : List String}
    (notEmpty : names ≠ []) (plain : ArePlainNames names) :
    let scan (ignores : List String) := discover system base includes ignores ignoreTestFiles
    let without := scan (before ++ behind)
    let asPath := scan (before ++ folder names :: behind)
    let asPattern := scan (before ++ (folder names ++ "/**") :: behind)
    let IsBelow (place : List Component) := (base.join ⟨folder names⟩).components <+: place
    (∀ place, asPath.Finds place ↔ without.Finds place ∧ ¬IsBelow place) ∧
    (∀ place, asPattern.Finds place ↔
      ∃ path, Keeps system base includes (before ++ behind) ignoreTestFiles path ∧
        path.components = place ∧ ¬(folder names).toList ++ ['/'] <+: path.text.toList) ∧
    (base.isAbsolute = true → asPattern = without ∧
      ((∀ place, asPath.Finds place ↔ asPattern.Finds place) ↔
        ∀ place, without.Finds place → ¬IsBelow place)) := by
  intro scan without asPath asPattern IsBelow
  have byPath (place : List Component) :
      asPath.Finds place ↔ without.Finds place ∧ ¬IsBelow place := by
    simp only [asPath, without, scan, finds_iff, keeps_insert_iff, leavesOut_folder_iff plain]
    constructor
    · rintro ⟨path, ⟨kept, notBelow⟩, rfl⟩
      exact ⟨⟨path, kept, rfl⟩, notBelow⟩
    · rintro ⟨⟨path, kept, rfl⟩, notBelow⟩
      exact ⟨path, ⟨kept, notBelow⟩, rfl⟩
  refine ⟨byPath, fun place => ?_, fun absolute => ?_⟩
  · rw [finds_iff]
    apply exists_congr
    intro path
    rw [keeps_insert_iff, ← leavesOut_belowPattern_iff plain base, and_assoc, and_comm (a := ¬_)]
    rfl
  · have same : asPattern = without := discover_insert_eq fun path offers =>
      not_leavesOut_belowPattern plain base notEmpty (isAbsolute_of_offers absolute offers)
    refine ⟨same, ?_⟩
    rw [same]
    apply forall_congr'
    intro place
    rw [byPath]
    tauto

/-- A project with a directory that is not its own. -/
def vendored : FileSystem where
  root := .directory [("work", .directory
    [("app.js", .file (some "")), ("vendor", .directory [("a.js", .file (some ""))])])]
  workingDirectory := ⟨"/"⟩

theorem vendor_ignored_as_path :
    let scan (ignores : List String) := discover vendored ⟨"/work"⟩ [] ignores true
    let app := [Component.root, .name "work", .name "app.js"]
    let foreign := [Component.root, .name "work", .name "vendor", .name "a.js"]
    ["vendor"] ≠ [] ∧ ArePlainNames ["vendor"] ∧ (Path.mk "/work").isAbsolute = true ∧
      (scan ["**/*.min.js", "vendor"]).Finds app ∧
      ¬(scan ["**/*.min.js", "vendor"]).Finds foreign ∧
      scan ["**/*.min.js", "vendor/**"] = scan ["**/*.min.js"] := by
  intro scan app foreign
  have notEmpty : ["vendor"] ≠ [] := by decide
  have plain : ArePlainNames ["vendor"] := by
    intro name member
    cases List.mem_singleton.mp member
    decide
  rcases ignored_as_path_or_as_pattern vendored ⟨"/work"⟩ [] ["**/*.min.js"] [] true notEmpty plain
    with ⟨byPath, _, absolute⟩
  refine ⟨notEmpty, plain, by decide, (byPath app).mpr ⟨by decide +kernel, by decide +kernel⟩, ?_,
    (absolute (by decide)).1⟩
  exact fun found => ((byPath foreign).mp found).2 (by decide +kernel)

/-- The pattern for everything in a directory does not leave out what the path of the directory
leaves out. -/
theorem pattern_keeps_vendor :
    (discover vendored ⟨"/work"⟩ [] ["vendor"] false).files = [⟨"/work/app.js"⟩] ∧
      (discover vendored ⟨"/work"⟩ [] ["vendor/**"] false).files =
        [⟨"/work/app.js"⟩, ⟨"/work/vendor/a.js"⟩] := by
  decide +kernel

end Discovery

end DirectiveScan
