import DirectiveScan.Proofs.File.LinkFree
import DirectiveScan.Proofs.Path.Ascent
import DirectiveScan.Proofs.Project.Reports
import DirectiveScan.Proofs.Project.Selection
import Mathlib.Data.List.Nodup

namespace DirectiveScan

/-! In how many spellings a file is found.

Paths are told apart by their components, and a path that goes up to a parent has other
components than one that does not, even if both lead to the same file. Such a path is only
found where something to include goes up. The main statement says that a file is found once
for every way to go up, and therefore once where nothing to include goes up. -/

open Glob

/-! ## Expansions -/

theorem FileSystem.isEntryName_of_mem_namesIn {system : FileSystem}
    (storable : system.root.isStorable = true) {path : Path} {name : String}
    (member : name ∈ namesIn system path) : FileNode.isEntryName name = true := by
  rw [namesIn, List.mem_mergeSort] at member
  rcases List.mem_map.mp member with ⟨⟨_, node⟩, isEntry, rfl⟩
  cases isNode : system.node path with
  | error failure => rw [isNode] at isEntry; cases isEntry
  | ok found =>
      rw [isNode] at isEntry
      cases found with
      | file text? => cases isEntry
      | link target => cases isEntry
      | locked => cases isEntry
      | directory entries =>
          rcases exists_place_of_node isNode with ⟨place, isPlace, _⟩
          have isStorable := FileNode.isStorable_of_descendant? storable isPlace
          exact (FileNode.isStorable_of_mem
            (FileNode.entriesStorable_of_directory isStorable) isEntry).1

/-- A pattern whose pieces do not lead up stands for straight paths. -/
theorem Glob.isStraight_of_mem_expand {system : FileSystem}
    (storable : system.root.isStorable = true) {pattern found : Path}
    (absolute : pattern.isAbsolute = true) (level : ∀ piece ∈ pattern.body, leadsUp piece = false)
    {paths : List Path} (succeeds : expand system pattern = .ok paths) (member : found ∈ paths) :
    found.IsStraight := by
  have carries : Carries system Pattern.IsLevel Path.IsStraight := by
    refine ⟨fun _ _ _ isLevel isLiteral straight => ?_,
      fun _ _ _ isLevel isPoint straight => ?_, fun _ _ isName straight => ?_⟩
    · have ⟨free, notUp⟩ := isLevel.literal _ isLiteral
      rw [step_of_isAbsolute straight.absolute]
      exact straight.join_piece free notUp
    · rw [eq_point isLevel isPoint]
      exact straight.join_piece (by decide) (by decide)
    · have named := (FileNode.isEntryName_iff.mp
        (FileSystem.isEntryName_of_mem_namesIn storable isName)).1
      rw [step_of_isAbsolute straight.absolute]
      exact straight.join_piece (Path.not_mem_of_isName named) (Path.ne_parent_of_isName named)
  have atStart : Path.IsStraight (if pattern.isAbsolute then ⟨"/"⟩ else current) := by
    rw [if_pos absolute]
    exact ⟨by decide, by decide⟩
  refine kept_of_mem_expand carries atStart (fun piece isPiece read isRead => ?_) succeeds member
  exact isLevel_of_read isRead (Path.not_mem_of_mem_body isPiece) (level piece isPiece)

namespace Discovery

/-- Whether something to include may go up on the way to where files are looked for. -/
def climbs (base : Path) (text : String) : Bool :=
  (base.join ⟨text⟩).body.any fun piece =>
    if Pattern.isMeant text then leadsUp piece else piece == ".."

section

variable {system : FileSystem} {base : Path} {includes ignores : List String}
  {ignoreTestFiles : Bool} {path : Path}

theorem isStraight_of_mem_roots (storable : system.root.isStorable = true)
    (straight : base.IsStraight) (level : ∀ text ∈ includes, climbs base text = false) {root : Path}
    (isRoot : root ∈ roots system base includes) : root.IsStraight := by
  rw [roots] at isRoot
  split at isRoot
  · exact List.mem_singleton.mp isRoot ▸ straight
  · rcases List.mem_flatMap.mp isRoot with ⟨text, isText, isRoot⟩
    have level := level text isText
    rw [climbs, List.any_eq_false] at level
    rw [rootsOf] at isRoot
    split at isRoot
    · next isMeant =>
        have inExpansion := (List.mem_filter.mp isRoot).1
        cases expands : expand system (base.join ⟨text⟩) with
        | error error => rw [expands] at inExpansion; cases inExpansion
        | ok paths =>
            rw [expands] at inExpansion
            refine isStraight_of_mem_expand storable (Path.join_isAbsolute straight.absolute _)
              (fun piece isPiece => ?_) expands inExpansion
            simpa [isMeant] using level piece isPiece
    · next isPath =>
        split at isRoot
        · cases List.mem_singleton.mp isRoot
          refine Path.isStraight_of_body (Path.join_isAbsolute straight.absolute _) ?_
          intro isPiece
          simpa [isPath] using level ".." isPiece
        · cases isRoot

/-- A found file goes up as the root does below which it is found. -/
theorem exists_root_of_mem_files (storable : system.root.isStorable = true)
    (member : path ∈ (discover system base includes ignores ignoreTestFiles).files) :
    ∃ root ∈ roots system base includes, path.ascent = root.ascent := by
  rcases (keeps_of_mem_files member).1.2 with ⟨root, isRoot, found⟩
  rcases mem_filesAt_iff.mp found with ⟨text?, inWalk⟩
  rcases FileSystem.exists_names_of_mem_walk storable inWalk with ⟨names, named, isPath, _⟩
  refine ⟨root, isRoot, ?_⟩
  rw [show path = _ from isPath, Path.ascent_descend _ (FileNode.areNames named)]

theorem eq_of_ascent_eq (absolute : base.isAbsolute = true) {workingDirectory left right : Path}
    (isLeft : left ∈ (discover system base includes ignores ignoreTestFiles).files)
    (isRight : right ∈ (discover system base includes ignores ignoreTestFiles).files)
    (samePlace : Path.absolute workingDirectory left = Path.absolute workingDirectory right)
    (sameAscent : left.ascent = right.ascent) : left = right := by
  have leftAbsolute := isAbsolute_of_mem_discover absolute isLeft
  have rightAbsolute := isAbsolute_of_mem_discover absolute isRight
  rw [Path.absolute_eq_absolute_iff workingDirectory leftAbsolute rightAbsolute] at samePlace
  exact (Path.increasing_ordered _).eq_of_components_eq isLeft isRight
    (Path.components_eq_of_ascent_eq leftAbsolute rightAbsolute samePlace sameAscent)

/-- Where all roots go up alike, no two files have the same absolute path. -/
theorem nodup_absolute (storable : system.root.isStorable = true)
    (absolute : base.isAbsolute = true)
    (alike : ∀ left ∈ roots system base includes, ∀ right ∈ roots system base includes,
      left.ascent = right.ascent) (workingDirectory : Path) :
    ((discover system base includes ignores ignoreTestFiles).files.map
      (Path.absolute workingDirectory)).Nodup := by
  refine List.Nodup.map_on (fun left isLeft right isRight samePlace => ?_)
    (Path.increasing_ordered _).nodup
  rcases exists_root_of_mem_files storable isLeft with ⟨leftRoot, isLeftRoot, leftAscent⟩
  rcases exists_root_of_mem_files storable isRight with ⟨rightRoot, isRightRoot, rightAscent⟩
  have sameAscent := alike leftRoot isLeftRoot rightRoot isRightRoot
  rw [← leftAscent, ← rightAscent] at sameAscent
  exact eq_of_ascent_eq absolute isLeft isRight samePlace sameAscent

/-! ## Other spellings -/

theorem exists_node_of_mem_roots (isDirectory : system.isDirectory base = true) {root : Path}
    (isRoot : root ∈ roots system base includes) : ∃ node, system.node root = .ok node := by
  rw [roots] at isRoot
  split at isRoot
  · cases List.mem_singleton.mp isRoot
    exact FileSystem.exists_node_of_isDirectory isDirectory
  · rcases List.mem_flatMap.mp isRoot with ⟨text, _, isRoot⟩
    rw [rootsOf] at isRoot
    split at isRoot
    · exact FileSystem.exists_node_of_isDirectory (List.mem_filter.mp isRoot).2
    · split at isRoot
      · next holds =>
          cases List.mem_singleton.mp isRoot
          rw [FileSystem.holds] at holds
          cases isNode : system.node (base.join ⟨text⟩) with
          | ok node => exact ⟨node, rfl⟩
          | error failure => rw [isNode] at holds; cases holds
      · cases isRoot

/-- Files at one place have one name. -/
theorem isSourceFile_eq_of_arrival_eq {other : Path} (absolute : path.isAbsolute = true)
    (otherAbsolute : other.isAbsolute = true) {text? otherText? : Option String}
    (isFile : system.entry path = .ok (.file text?))
    (isOther : system.entry other = .ok (.file otherText?))
    (samePlace : path.arrival [] = other.arrival []) :
    path.isSourceFile = other.isSourceFile := by
  rcases FileSystem.exists_name_of_isFile absolute isFile with ⟨_, _, ends⟩
  rcases FileSystem.exists_name_of_isFile otherAbsolute isOther with ⟨_, _, otherEnds⟩
  rw [Path.isSourceFile, Path.isSourceFile, Path.extension?, Path.extension?,
    ends.fileName?_eq_getLast?, otherEnds.fileName?_eq_getLast?, samePlace]

/-- Without links, a found file is found in every spelling that starts at a root, unless it is
left out in this spelling. -/
theorem finds_other_spelling (storable : system.root.isStorable = true)
    (linkFree : system.root.isLinkFree = true) (absolute : base.isAbsolute = true)
    (isDirectory : system.isDirectory base = true)
    (member : path ∈ (discover system base includes ignores ignoreTestFiles).files) {root : Path}
    (isRoot : root ∈ roots system base includes) {names : List String}
    (named : ∀ name ∈ names, FileNode.isEntryName name = true)
    (samePlace : (root.descend names).arrival [] = path.arrival [])
    (kept : ∀ text ∈ ignored ignores ignoreTestFiles, ¬LeavesOut base text (root.descend names)) :
    (discover system base includes ignores ignoreTestFiles).Finds
      (root.descend names).components := by
  have rootAbsolute := isAbsolute_of_mem_roots absolute isRoot
  have pathAbsolute := isAbsolute_of_mem_discover absolute member
  rcases (keeps_of_mem_files member).1 with ⟨isSource, _, _, found⟩
  rcases isFile_of_mem_filesAt storable found with ⟨text?, isFile⟩
  have isNode := FileSystem.descendant?_of_entry linkFree pathAbsolute isFile
  rcases exists_node_of_mem_roots isDirectory isRoot with ⟨rootNode, isRootNode⟩
  rw [← samePlace, Path.arrival_descend rootAbsolute (FileNode.areNames named)] at isNode
  have inWalk := FileSystem.mem_walk_of_descendant? linkFree rootAbsolute isRootNode isNode
  have sameName := isSourceFile_eq_of_arrival_eq
    (Path.descend_isAbsolute rootAbsolute names) pathAbsolute
    (FileSystem.entry_of_mem_walk storable inWalk) isFile samePlace
  have offers : Offers system base includes (root.descend names) :=
    ⟨sameName.trans isSource, root, isRoot, mem_filesAt_iff.mpr ⟨text?, inWalk⟩⟩
  exact finds_iff.mpr ⟨_, ⟨offers, kept⟩, rfl⟩

end

end Discovery

namespace Project

variable {origin : FileSystem} {directory : Path} {project : Project}

/-! ## Reports -/

/-- What is reported on a file carries the absolute path of the file. -/
theorem path_of_mem_components {system : FileSystem} {schedule : Schedule} {path : Path}
    {report : FileReport} (isReport : project.analyzeFile system schedule path = some report)
    {component : Descriptor} (member : component ∈ report.result.components) :
    component.path = (Path.absolute system.workingDirectory path).text := by
  have gives := gives_of_analyzeFile isReport
  generalize report.result = result at gives member
  cases gives with
  | unreadable fails => cases member
  | malformed isRead fails => cases member
  | analyzed holds yields =>
      rcases Program.yields_of_mem_components yields member with ⟨_, _, _, _, _, rfl⟩
      rfl

/-- Components of different reports have different paths where no two files have the same
absolute path. -/
theorem pairwise_components (increasing : Path.Increasing project.files) {system : FileSystem}
    (once : (project.files.map (Path.absolute system.workingDirectory)).Nodup) {size : Nat}
    {schedules : Path → Schedule} {reports : List FileReport}
    (ran : project.runUnder size system schedules = some reports) :
    reports.Pairwise fun left right =>
      ∀ component ∈ left.result.components, ∀ other ∈ right.result.components,
        component.path ≠ other.path := by
  rw [← map_path_of_runUnder increasing ran, List.map_map] at once
  apply (List.pairwise_map.mp once).imp_of_mem
  intro left right isLeft isRight differ component inLeft other inRight samePath
  have leftReport := (analyzeFile_of_mem_runUnder increasing ran isLeft).2
  have rightReport := (analyzeFile_of_mem_runUnder increasing ran isRight).2
  rw [path_of_mem_components leftReport inLeft, path_of_mem_components rightReport inRight]
    at samePath
  exact differ (congrArg Path.mk samePath)

/-! ## Loaded projects -/

theorem isStraight_root (loaded : load origin directory = .ok project) :
    project.root.IsStraight := by
  rw [(of_load loaded).1, Path.absolute_eq_directory _ (text_ne_of_load loaded)]
  exact Path.isStraight_directory (Path.isName_of_mem_arrivalFrom _ directory)

/-- Two files of a loaded project that have the same absolute path go up in different ways, as
roots do below which they are found. Where no two roots go up in different ways, as where
nothing to include goes up at all, no file is reported twice and no component twice with the
same path. In a tree without links, a found file is found in every other spelling as well that
leads down from a root, unless it is left out in this spelling. -/
theorem found_once_per_ascent {origin : FileSystem} {directory : Path} {project : Project}
    (storable : origin.root.isStorable = true) (loaded : load origin directory = .ok project) :
    let roots := Discovery.roots origin project.root project.config.includes
    (∀ workingDirectory, ∀ left ∈ project.files, ∀ right ∈ project.files,
      Path.absolute workingDirectory left = Path.absolute workingDirectory right →
        (left = right ↔ left.ascent = right.ascent)) ∧
    (∀ path ∈ project.files, ∃ root ∈ roots, path.ascent = root.ascent) ∧
    ((∀ text ∈ project.config.includes, Discovery.climbs project.root text = false) →
      ∀ root ∈ roots, root.ascent = [.root]) ∧
    ((∀ left ∈ roots, ∀ right ∈ roots, left.ascent = right.ascent) →
      ∀ system : FileSystem,
        (project.files.map (Path.absolute system.workingDirectory)).Nodup ∧
        ∀ size schedules reports, project.runUnder size system schedules = some reports →
          (reports.map fun report => Path.absolute system.workingDirectory report.path).Nodup ∧
          reports.Pairwise fun left right =>
            ∀ component ∈ left.result.components, ∀ other ∈ right.result.components,
              component.path ≠ other.path) ∧
    (origin.root.isLinkFree = true →
      ∀ workingDirectory, ∀ path ∈ project.files, ∀ root ∈ roots, ∀ names,
        (∀ name ∈ names, FileNode.isEntryName name = true) →
        Path.absolute workingDirectory (root.descend names) =
          Path.absolute workingDirectory path →
        (∀ text ∈ Discovery.ignored project.config.ignores project.config.ignoreTestFiles,
          ¬Discovery.LeavesOut project.root text (root.descend names)) →
        ∃ other ∈ project.files, other.components = (root.descend names).components) := by
  intro roots
  have increasing := increasing_of_load loaded
  have straight := isStraight_root loaded
  rcases files_of_load loaded with ⟨absolute, isFiles⟩
  refine ⟨fun workingDirectory left isLeft right isRight samePlace => ?_, fun path member => ?_,
    fun level root isRoot => ?_, fun alike system => ?_,
    fun linkFree workingDirectory path member root isRoot names named samePlace kept => ?_⟩
  · rw [isFiles] at isLeft isRight
    exact ⟨congrArg Path.ascent, Discovery.eq_of_ascent_eq absolute isLeft isRight samePlace⟩
  · exact Discovery.exists_root_of_mem_files storable (isFiles ▸ member)
  · exact (Discovery.isStraight_of_mem_roots storable straight level isRoot).ascent_eq
  · have once : (project.files.map (Path.absolute system.workingDirectory)).Nodup := by
      rw [isFiles]
      exact Discovery.nodup_absolute storable absolute alike _
    refine ⟨once, fun size schedules reports ran => ⟨?_, pairwise_components increasing once ran⟩⟩
    rwa [← map_path_of_runUnder increasing ran, List.map_map] at once
  · have isDirectory := (of_load loaded).2.1
    have rootAbsolute := Discovery.isAbsolute_of_mem_roots absolute isRoot
    have pathAbsolute := isAbsolute_of_load loaded member
    rw [Path.absolute_eq_absolute_iff _ (Path.descend_isAbsolute rootAbsolute names) pathAbsolute]
      at samePlace
    rw [isFiles] at member ⊢
    exact Discovery.finds_other_spelling storable linkFree absolute isDirectory member isRoot named
      samePlace kept

/-! ## A project that is looked for in overlapping directories -/

/-- A pet shop whose configuration lists what to include, and nothing to leave out. -/
def petShop (includes : String) : FileSystem where
  root := .directory [("shop", .directory
    [(".heklarc.json", .file (some ("[[" ++ includes ++ "], [], false]"))),
      ("src", .directory [("pets", .directory
        [("cat.js", .file (some "app.directive('cat', f);"))])])])]
  workingDirectory := ⟨"/"⟩

def petShopProject (includes : List String) (files : List Path) : Project where
  config := { Config.standard with includes, ignores := [], ignoreTestFiles := false }
  configSource := some ⟨"/shop/.heklarc.json"⟩
  root := ⟨"/shop"⟩
  files := files
  skipped := 0

/-- Points and empty pieces give no other spelling. -/
theorem cat_found_once :
    let origin := petShop "\"src\", \"./src//pets\""
    let project := petShopProject ["src", "./src//pets"] [⟨"/shop/src/pets/cat.js"⟩]
    load origin ⟨"/shop"⟩ = .ok project ∧ origin.root.isStorable = true ∧
      (∀ text ∈ project.config.includes, Discovery.climbs project.root text = false) ∧
      (project.files.map (Path.absolute ⟨"/"⟩)).Nodup := by
  intro origin project
  have storable : origin.root.isStorable = true := by decide +kernel
  have loaded : load origin ⟨"/shop"⟩ = .ok project := by decide +kernel
  have level : ∀ text ∈ project.config.includes, Discovery.climbs project.root text = false := by
    decide +kernel
  rcases found_once_per_ascent storable loaded with ⟨_, _, ascents, once, _⟩
  refine ⟨loaded, storable, level, (once ?_ origin).1⟩
  intro left isLeft right isRight
  rw [ascents level left isLeft, ascents level right isRight]

/-- A step up and down again gives another spelling, in which the same component is reported a
second time. -/
theorem cat_found_in_two_spellings :
    let origin := petShop "\"src\", \"src/../src\""
    let project := petShopProject ["src", "src/../src"]
      [⟨"/shop/src/../src/pets/cat.js"⟩, ⟨"/shop/src/pets/cat.js"⟩]
    load origin ⟨"/shop"⟩ = .ok project ∧ origin.root.isLinkFree = true ∧
      project.config.invalid? = none ∧
      (∀ text ∈ project.config.includes, (Path.mk text).isAbsolute = false) ∧
      ¬(project.files.map (Path.absolute ⟨"/"⟩)).Nodup ∧
      ((project.run origin fun _ _ _ => 1).map fun reports => reports.map fun report =>
        report.result.components.map Descriptor.path) =
          some [["/shop/src/pets/cat.js"], ["/shop/src/pets/cat.js"]] := by
  decide +kernel

end Project

end DirectiveScan
