import DirectiveScan.Proofs.Project.IgnoreForms

namespace DirectiveScan

/-! Files of tests.

The patterns for test files are matched with whole paths. What they leave out can be told by the
components of a path: its name has a word for tests before the extension, or a directory of tests
stands above it. -/

open Glob

namespace Discovery

/-- Whether a name is that of a test file: a word for tests stands before its extension. -/
def IsTestName (name : String) : Prop :=
  ∃ stem word extension : String, word ∈ ["test", "spec"] ∧
    (Path.splitName name).2 = some extension ∧ name = stem ++ "." ++ word ++ "." ++ extension

/-- Whether a path leads to a test file: by its name, or by a directory above it. -/
def IsTestFile (path : Path) : Prop :=
  ∃ above name, path.components = above ++ [.name name] ∧
    (IsTestName name ∨ .name Site.testDirectory ∈ above)

/-! ## Names -/

theorem mem_testFileEnds_iff {ending : String} :
    ending ∈ Site.testFileEnds ↔ ∃ word ∈ ["test", "spec"], ∃ extension ∈ Path.sourceExtensions,
      "." ++ word ++ "." ++ extension = ending := by
  simp only [Site.testFileEnds, List.mem_flatMap, List.mem_map]

theorem point_not_mem_of_sourceExtension :
    ∀ extension ∈ Path.sourceExtensions, '.' ∉ extension.toList := by
  decide

theorem isTestName_of_isSuffix {name ending : String} (isEnd : ending ∈ Site.testFileEnds)
    (ends : ending.toList <:+ name.toList) : IsTestName name := by
  rcases mem_testFileEnds_iff.mp isEnd with ⟨word, isWord, extension, isExtension, rfl⟩
  rcases ends with ⟨front, whole⟩
  have isName : name = String.ofList front ++ "." ++ word ++ "." ++ extension := by
    apply String.toList_injective
    rw [← whole]
    simp
  have notEmpty : String.ofList front ++ "." ++ word ≠ "" := by
    intro empty
    have := congrArg String.toList empty
    simp at this
  refine ⟨String.ofList front, word, extension, isWord, ?_, isName⟩
  rw [isName, Path.splitName_append notEmpty (point_not_mem_of_sourceExtension _ isExtension)]

/-- Of the names of source files, those of test files are told by their ends. -/
theorem isTestName_iff {name extension : String}
    (isExtension : (Path.splitName name).2 = some extension)
    (isSource : extension ∈ Path.sourceExtensions) :
    IsTestName name ↔ ∃ ending ∈ Site.testFileEnds, ending.toList <:+ name.toList := by
  constructor
  · rintro ⟨stem, word, other, isWord, alsoExtension, isName⟩
    cases isExtension.symm.trans alsoExtension
    refine ⟨_, mem_testFileEnds_iff.mpr ⟨word, isWord, extension, isSource, rfl⟩, stem.toList, ?_⟩
    rw [isName]
    simp
  · rintro ⟨ending, isEnd, ends⟩
    exact isTestName_of_isSuffix isEnd ends

/-! ## Patterns -/

section

variable {base path : Path}

theorem leavesOut_iff_of_read {text : String} {pattern : Pattern}
    (isMeant : Pattern.isMeant text = true) (isRead : Pattern.read text = .ok pattern) :
    LeavesOut base text path ↔ pattern.accepts path.text = true := by
  rw [LeavesOut, if_pos isMeant, isRead]
  simp

theorem leavesOut_endPattern_iff {ending : String} (isEnd : ending ∈ Site.testFileEnds) :
    LeavesOut base (endPattern ending) path ↔ ending.toList <:+ path.text.toList := by
  have plain : ∀ ending ∈ Site.testFileEnds, isPlain ending.toList = true := by decide
  have isMeant : Pattern.isMeant (endPattern ending) = true := by
    simp [Pattern.isMeant, endPattern]
  rw [leavesOut_iff_of_read isMeant (read_endPattern (plain ending isEnd)), withEnd_accepts_iff]

theorem leavesOut_testDirectory_iff (absolute : path.isAbsolute = true) :
    LeavesOut base (directoryPattern Site.testDirectory) path ↔
      Site.testDirectory ∈ path.body.dropLast := by
  rw [leavesOut_iff_of_read (by decide) (read_directoryPattern (by decide)),
    inDirectory_accepts_iff absolute (by decide)]

/-- The patterns for test files leave out the source files of tests. -/
theorem leavesOut_testFilePatterns_iff {front : List String} {name : String}
    (ends : path.EndsIn front name) (isSource : path.isSourceFile = true) :
    (∃ text ∈ testFilePatterns, LeavesOut base text path) ↔ IsTestFile path := by
  have noSlash : ∀ ending ∈ Site.testFileEnds, '/' ∉ ending.toList := by decide
  -- The name of the path is the only one that its components end with.
  have isTestFile : IsTestFile path ↔
      IsTestName name ∨ .name Site.testDirectory ∈ path.components.dropLast := by
    rw [IsTestFile, ends.components_eq, List.dropLast_concat]
    constructor
    · rintro ⟨above, other, same, isTest⟩
      rcases List.append_inj' same rfl with ⟨rfl, last⟩
      cases last
      exact isTest
    · intro isTest
      exact ⟨_, name, rfl, isTest⟩
  have byName : (∃ ending ∈ Site.testFileEnds, LeavesOut base (endPattern ending) path) ↔
      IsTestName name := by
    rcases exists_extension_of_isSourceFile isSource with ⟨extension, isListed, isExtension⟩
    rw [Path.extension?, ends.fileName?_eq, Option.bind_some] at isExtension
    rw [isTestName_iff isExtension isListed]
    apply exists_congr
    intro ending
    apply and_congr_right
    intro isEnd
    rw [leavesOut_endPattern_iff isEnd, ends.isSuffix_text_iff (noSlash ending isEnd)]
  have byDirectory : LeavesOut base (directoryPattern Site.testDirectory) path ↔
      .name Site.testDirectory ∈ path.components.dropLast := by
    rw [leavesOut_testDirectory_iff ends.absolute, ends.body_eq, List.dropLast_concat,
      ends.mem_front_iff (by decide)]
  rw [isTestFile, ← byName, ← byDirectory, Site.testFilePatterns_eq]
  simp [or_and_right, exists_or]

end

/-! ## Discoveries -/

theorem excludes_tests_iff {base path : Path} {ignores : List String} :
    (exclusion base ignores true).excludes path = true ↔
      (exclusion base ignores false).excludes path = true ∨
        ∃ text ∈ testFilePatterns, LeavesOut base text path := by
  rw [excludes_iff, excludes_iff]
  simp only [mem_ignored_iff, Bool.false_eq_true, false_and, or_false, true_and, or_and_right,
    exists_or]

section

variable {system : FileSystem} (storable : system.root.isStorable = true)

include storable

open Classical in
theorem filesBelow_tests_eq (base : Path) (ignores : List String) {root : Path}
    (absolute : root.isAbsolute = true) :
    filesBelow system (exclusion base ignores true) root =
      (filesBelow system (exclusion base ignores false) root).filter
        fun path => decide (¬IsTestFile path) := by
  rw [filesBelow_eq, filesBelow_eq, List.filter_filter]
  apply List.filter_congr
  intro path found
  cases isSource : path.isSourceFile with
  | false => rw [Bool.and_false, Bool.and_false, Bool.and_false]
  | true =>
      rcases isFile_of_mem_filesAt storable found with ⟨text?, isFile⟩
      rcases mem_filesAt_iff.mp found with ⟨_, member⟩
      have isAbsolute := FileSystem.isAbsolute_of_mem_walk absolute member
      rcases FileSystem.exists_name_of_isFile isAbsolute isFile with ⟨front, name, ends⟩
      rw [Bool.and_true, Bool.and_true, Bool.eq_iff_iff, Bool.and_eq_true, decide_eq_true_iff,
        Bool.not_eq_true', Bool.not_eq_true', ← Bool.not_eq_true, ← Bool.not_eq_true,
        excludes_tests_iff, leavesOut_testFilePatterns_iff ends isSource, not_or, and_comm]

/-- Without test files a discovery finds what it finds with them, less the files of tests, in the
same order. -/
theorem test_files_left_out {base : Path} (absolute : base.isAbsolute = true)
    (includes ignores : List String) :
    let scan := discover system base includes ignores
    (∀ path, path ∈ (scan true).files ↔ path ∈ (scan false).files ∧ ¬IsTestFile path) ∧
      List.Sublist (scan true).files (scan false).files ∧
      (scan true).skipped = (scan false).skipped := by
  classical
  intro scan
  have sameFiles : (scan true).files =
      (scan false).files.filter fun path => decide (¬IsTestFile path) := by
    have chosen : (roots system base includes).flatMap
          (filesBelow system (exclusion base ignores true)) =
        ((roots system base includes).flatMap
          (filesBelow system (exclusion base ignores false))).filter
            fun path => decide (¬IsTestFile path) := by
      rw [List.filter_flatMap]
      apply List.flatMap_congr
      intro root isRoot
      exact filesBelow_tests_eq storable base ignores (isAbsolute_of_mem_roots absolute isRoot)
    simp only [scan, discover]
    rw [chosen, Path.ordered_filter]
    intro left right samePlace
    have alike : IsTestFile left ↔ IsTestFile right := by rw [IsTestFile, IsTestFile, samePlace]
    exact decide_eq_decide.mpr (not_congr alike)
  refine ⟨fun path => ?_, ?_, rfl⟩
  · rw [sameFiles, List.mem_filter, decide_eq_true_iff]
  · rw [sameFiles]
    exact List.filter_sublist

end

/-- A project with files of tests, and with files whose names only look like it. -/
def tested : FileSystem where
  root := .directory [("work", .directory
    [("__tests__", .directory [("cat.js", .file (some ""))]),
      ("__tests__.js", .file (some "")), ("cat.spec.js", .file (some "")),
      ("cat.test.d.ts", .file (some "")), ("latest.js", .file (some ""))])]
  workingDirectory := ⟨"/"⟩

theorem latest_found_without_tests :
    let scan := discover tested ⟨"/work"⟩ ["./"] []
    tested.root.isStorable = true ∧ (Path.mk "/work").isAbsolute = true ∧
      (⟨"/work/./cat.spec.js"⟩ ∈ (scan false).files ∧
        ⟨"/work/./cat.spec.js"⟩ ∉ (scan true).files) ∧
      (scan true).files =
        [⟨"/work/./__tests__.js"⟩, ⟨"/work/./cat.test.d.ts"⟩, ⟨"/work/./latest.js"⟩] := by
  intro scan
  have storable : tested.root.isStorable = true := by decide +kernel
  have absolute : (Path.mk "/work").isAbsolute = true := by decide
  have isTest : IsTestFile ⟨"/work/./cat.spec.js"⟩ :=
    ⟨[.root, .name "work"], "cat.spec.js", by decide,
      .inl ⟨"cat", "spec", "js", by decide, by decide, by decide⟩⟩
  rcases test_files_left_out storable absolute ["./"] [] with ⟨leftOut, _⟩
  exact ⟨storable, absolute, ⟨by decide +kernel, fun found => ((leftOut _).mp found).2 isTest⟩,
    by decide +kernel⟩

end Discovery

end DirectiveScan
