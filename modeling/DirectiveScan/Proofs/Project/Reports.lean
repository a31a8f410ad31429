import DirectiveScan.Proofs.Extract.Dependence
import DirectiveScan.Proofs.Project.Absolute

namespace DirectiveScan

/-! The reports of a project.

A run reports on every file once, in the order of the paths, and what it reports on a file
is what the file gives on its own. Neither the size of the batches nor another file makes a
difference. A run leaves reports on all files or, where the program stops, on none. -/

section Option

variable {α β : Type}

theorem mapM_eq_some_iff (give : α → Option β) (values : List α) (results : List β) :
    values.mapM give = some results ↔
      List.Forall₂ (fun value result => give value = some result) values results := by
  induction values generalizing results with
  | nil => simp [eq_comm]
  | cons head tail induction =>
      rw [List.mapM_cons]
      constructor
      · intro succeeds
        rcases Option.bind_eq_some_iff.mp succeeds with ⟨first, isFirst, restSucceeds⟩
        rcases Option.bind_eq_some_iff.mp restSucceeds with ⟨rest, isRest, isResults⟩
        cases isResults
        exact .cons isFirst ((induction rest).mp isRest)
      · intro succeeds
        cases succeeds with
        | cons isFirst isRest =>
            rw [isFirst, (induction _).mpr isRest]
            rfl

/-- Going through parts one after the other is going through the whole. -/
theorem mapM_flatten (give : α → Option β) (parts : List (List α)) :
    parts.flatten.mapM give = (parts.mapM (List.mapM give)).map List.flatten := by
  induction parts with
  | nil => rfl
  | cons part rest induction =>
      rw [List.flatten_cons, List.mapM_append, List.mapM_cons, induction]
      cases part.mapM give with
      | none => rfl
      | some results => cases rest.mapM (List.mapM give) <;> rfl

end Option

namespace Project

/-! ## Batches and order -/

theorem flatten_batchesFrom {α : Type} (size room : Nat) (items : List α) :
    (batchesFrom size room items).flatten = items := by
  induction items generalizing room with
  | nil => rfl
  | cons item rest induction =>
      have restFlat := induction (if room = 0 then size else room - 1)
      rw [batchesFrom.eq_def]
      simp only
      split
      · exact congrArg (item :: ·) restFlat
      · next none =>
          rw [none] at restFlat
          exact congrArg (item :: ·) restFlat
      · next some =>
          rw [some] at restFlat
          exact congrArg (item :: ·) restFlat

theorem insertReport_of_last {report : FileReport} {sorted : List FileReport}
    (last : ∀ other ∈ sorted, other.path.compare report.path = .lt) :
    insertReport report sorted = sorted ++ [report] := by
  induction sorted with
  | nil => rfl
  | cons first rest induction =>
      have before : first.path.compare report.path = .lt := last first List.mem_cons_self
      have notLess : ¬report.path.compare first.path = .lt := by
        rw [Std.OrientedCmp.gt_of_lt before]
        decide
      rw [insertReport, if_neg notLess,
        induction fun other member => last other (List.mem_cons_of_mem _ member)]
      rfl

theorem foldl_insertReport {sorted reports : List FileReport}
    (increasing : Path.Increasing ((sorted ++ reports).map FileReport.path)) :
    reports.foldl (fun sorted report => insertReport report sorted) sorted = sorted ++ reports := by
  induction reports generalizing sorted with
  | nil => exact (List.append_nil sorted).symm
  | cons report rest induction =>
      have last : ∀ other ∈ sorted, other.path.compare report.path = .lt := by
        intro other member
        rw [List.map_append, Path.Increasing, List.pairwise_append] at increasing
        exact increasing.2.2 _ (List.mem_map_of_mem member) _ List.mem_cons_self
      have split : sorted ++ report :: rest = (sorted ++ [report]) ++ rest := by simp
      rw [split] at increasing ⊢
      rw [List.foldl_cons, insertReport_of_last last, induction increasing]

/-- Reports that stand in order stay as they are. -/
theorem sortReports_of_increasing {reports : List FileReport}
    (increasing : Path.Increasing (reports.map FileReport.path)) : sortReports reports = reports :=
  foldl_insertReport increasing

variable {project : Project} {system : FileSystem} {schedules : Path → Schedule}

theorem path_of_analyzeFile {schedule : Schedule} {path : Path} {report : FileReport}
    (isReport : project.analyzeFile system schedule path = some report) : report.path = path := by
  rw [analyzeFile] at isReport
  split at isReport
  · rcases Option.map_eq_some_iff.mp isReport with ⟨result, _, rfl⟩
    rfl
  · cases isReport
    rfl

theorem map_path_of_mapM {paths : List Path} {reports : List FileReport}
    (succeeds : paths.mapM (fun path => project.analyzeFile system (schedules path) path) =
      some reports) : reports.map FileReport.path = paths := by
  rw [mapM_eq_some_iff] at succeeds
  induction succeeds with
  | nil => rfl
  | cons isReport _ induction => rw [List.map_cons, path_of_analyzeFile isReport, induction]

/-- A run is an analysis of the files one after the other. -/
theorem runUnder_eq_mapM (increasing : Path.Increasing project.files) (size : Nat) :
    project.runUnder size system schedules =
      project.files.mapM fun path => project.analyzeFile system (schedules path) path := by
  have flat := mapM_flatten (fun path => project.analyzeFile system (schedules path) path)
    (batches size project.files)
  rw [batches, flatten_batchesFrom] at flat
  have isSorted : project.runUnder size system schedules =
      (project.files.mapM fun path => project.analyzeFile system (schedules path) path).map
        sortReports := by
    rw [flat, runUnder, batches]
    cases (batchesFrom (size - 1) (size - 1) project.files).mapM
      (List.mapM fun path => project.analyzeFile system (schedules path) path) <;> rfl
  rw [isSorted]
  cases succeeds :
      project.files.mapM fun path => project.analyzeFile system (schedules path) path with
  | none => rfl
  | some reports =>
      rw [Option.map_some, sortReports_of_increasing]
      rwa [map_path_of_mapM succeeds]

theorem map_path_of_runUnder (increasing : Path.Increasing project.files) {size : Nat}
    {reports : List FileReport} (ran : project.runUnder size system schedules = some reports) :
    reports.map FileReport.path = project.files := by
  rw [runUnder_eq_mapM increasing] at ran
  exact map_path_of_mapM ran

theorem runUnder_alone {path : Path} {report : FileReport}
    (isReport : project.analyzeFile system (schedules path) path = some report) (size : Nat) :
    { project with files := [path] }.runUnder size system schedules = some [report] := by
  have increasing : Path.Increasing ({ project with files := [path] } : Project).files :=
    List.pairwise_singleton _ path
  rw [runUnder_eq_mapM increasing, mapM_eq_some_iff]
  exact .cons isReport .nil

/-- A report is on a file of the project. -/
theorem analyzeFile_of_mem_runUnder (increasing : Path.Increasing project.files) {size : Nat}
    {reports : List FileReport} (ran : project.runUnder size system schedules = some reports)
    {report : FileReport} (member : report ∈ reports) :
    report.path ∈ project.files ∧
      project.analyzeFile system (schedules report.path) report.path = some report := by
  rw [runUnder_eq_mapM increasing] at ran
  have paths := map_path_of_mapM ran
  rw [mapM_eq_some_iff, List.forall₂_iff_get] at ran
  rcases List.getElem?_of_mem member with ⟨place, found⟩
  rcases List.getElem?_eq_some_iff.mp found with ⟨inside, rfl⟩
  have isReport := ran.2 place (ran.1 ▸ inside) inside
  refine ⟨paths ▸ List.mem_map_of_mem member, ?_⟩
  have isPath := path_of_analyzeFile isReport
  rw [List.get_eq_getElem] at isPath
  rw [isPath]
  exact isReport

/-! ## One file -/

/-- A file of a file system is a program. -/
def HoldsProgram (system : FileSystem) (path : Path) (program : Program) : Prop :=
  ∃ contents, system.read path = .ok contents ∧
    Program.read (.ofPath path) (.ofString contents) = .ok program

/-- What a file gives on its own: why it cannot be read, where it is malformed, or what its
registrations yield, if the program does not stop there. -/
inductive Gives (project : Project) (system : FileSystem) (schedule : Schedule) (path : Path) :
    Option Extraction → Prop
  | unreadable {cause : ReadError} (fails : system.read path = .error cause) :
      Gives project system schedule path (some ⟨[], [.unreadable path.text cause]⟩)
  | malformed {contents : String} {fault : Fault} (isRead : system.read path = .ok contents)
      (fails : Program.read (.ofPath path) (.ofString contents) = .error fault) :
      Gives project system schedule path (some
        ⟨[], [.malformed path.text (some ((SourceText.ofString contents).locate fault.offset))]⟩)
  | analyzed {program : Program} {outcome : Option Extraction}
      (holds : HoldsProgram system path program)
      (yields : program.analyzeUnder (project.resolver system) system.read path schedule =
        outcome) :
      Gives project system schedule path outcome

section

variable {schedule : Schedule} {path : Path}

theorem readFile_of_fault {contents : String} {fault : Fault}
    (isRead : system.read path = .ok contents)
    (fails : Program.read (.ofPath path) (.ofString contents) = .error fault) :
    readFile system path =
      .error
        (.malformed path.text (some ((SourceText.ofString contents).locate fault.offset))) := by
  rw [readFile, isRead]
  unfold SourceFile.read
  simp only [fails]

theorem readFile_of_program {program : Program} (holds : HoldsProgram system path program) :
    ∃ text, readFile system path = .ok ⟨text, program⟩ := by
  rcases holds with ⟨contents, isRead, succeeds⟩
  refine ⟨.ofString contents, ?_⟩
  rw [readFile, isRead]
  unfold SourceFile.read
  simp only [succeeds]

theorem Gives.map_result_eq {outcome : Option Extraction}
    (gives : project.Gives system schedule path outcome) :
    (project.analyzeFile system schedule path).map FileReport.result = outcome := by
  cases gives with
  | unreadable fails =>
      rw [analyzeFile, readFile, fails]
      rfl
  | malformed isRead fails =>
      rw [analyzeFile, readFile_of_fault isRead fails]
      rfl
  | analyzed holds yields =>
      rcases readFile_of_program holds with ⟨text, isFile⟩
      rw [analyzeFile, isFile]
      simp only [yields]
      cases outcome <;> rfl

theorem exists_gives (project : Project) (system : FileSystem) (schedule : Schedule)
    (path : Path) : ∃ outcome, project.Gives system schedule path outcome := by
  cases isRead : system.read path with
  | error cause => exact ⟨_, .unreadable isRead⟩
  | ok contents =>
      cases isProgram : Program.read (.ofPath path) (.ofString contents) with
      | error fault => exact ⟨_, .malformed isRead isProgram⟩
      | ok program => exact ⟨_, .analyzed ⟨contents, isRead, isProgram⟩ rfl⟩

theorem Gives.unique {outcome other : Option Extraction}
    (gives : project.Gives system schedule path outcome)
    (otherGives : project.Gives system schedule path other) : outcome = other :=
  gives.map_result_eq.symm.trans otherGives.map_result_eq

theorem gives_of_analyzeFile {report : FileReport}
    (isReport : project.analyzeFile system schedule path = some report) :
    project.Gives system schedule path (some report.result) := by
  rcases exists_gives project system schedule path with ⟨outcome, gives⟩
  have isOutcome := gives.map_result_eq
  rw [isReport, Option.map_some] at isOutcome
  rwa [isOutcome]

/-- A file gives components, or one error. -/
theorem Gives.errors_eq_nil_or {result : Extraction}
    (gives : project.Gives system schedule path (some result)) :
    result.errors = [] ∨ ∃ error, result = ⟨[], [error]⟩ := by
  cases gives with
  | unreadable fails => exact .inr ⟨_, rfl⟩
  | malformed isRead fails => exact .inr ⟨_, rfl⟩
  | analyzed holds yields =>
      rcases Program.yields_or_failsWith yields with ⟨_, noErrors⟩ | ⟨_, _, error, _, failed⟩
      · exact .inl noErrors
      · exact .inr ⟨error, failed⟩

/-- Whatever the schedule, the same is reported on a file: its registrations do not fail in
different ways, or there are too many of them to be watched together. -/
def ReportsOneWay (project : Project) (system : FileSystem) (path : Path) : Prop :=
  ∀ program, HoldsProgram system path program →
    program.FailsOneWay (project.resolver system) system.read path ∨
      Attempt.watchedTogether < (Directive.registrations (.program program)).length

/-- When the reads complete decides at most which error a file gives, and only where its
registrations fail in different ways. -/
theorem Gives.agree {otherSchedule : Schedule} {result other : Extraction}
    (gives : project.Gives system schedule path (some result))
    (otherGives : project.Gives system otherSchedule path (some other)) :
    (result.errors = [] ↔ other.errors = []) ∧ result.components = other.components ∧
      (schedule = otherSchedule ∨ project.ReportsOneWay system path → result = other) := by
  cases gives with
  | unreadable fails =>
      cases otherGives.unique (.unreadable fails)
      exact ⟨Iff.rfl, rfl, fun _ => rfl⟩
  | malformed isRead fails =>
      cases otherGives.unique (.malformed isRead fails)
      exact ⟨Iff.rfl, rfl, fun _ => rfl⟩
  | @analyzed program _ holds yields =>
      have otherYields := otherGives.unique (.analyzed holds rfl)
      rcases Program.agree_of_schedules yields otherYields.symm with ⟨errors, components⟩
      refine ⟨errors, components, fun sameReport => ?_⟩
      have same : program.analyzeUnder (project.resolver system) system.read path schedule =
          program.analyzeUnder (project.resolver system) system.read path otherSchedule := by
        rcases sameReport with rfl | oneWay
        · rfl
        · rcases oneWay program holds with oneWay | many
          · exact Program.analyzeUnder_of_failsOneWay oneWay schedule otherSchedule
          · rw [Program.analyzeUnder_of_many _ many, Program.analyzeUnder_of_many _ many]
      rw [yields, ← otherYields, Option.some.injEq] at same
      exact same

end

/-! ## Where there are reports -/

/-- Every template of a project has a path. -/
def NamesTemplates (project : Project) : Prop :=
  project.config.templateLookup = .companion → '/' ∉ project.config.extension.toList

/-- Where every template has a path, every file gives a result. -/
theorem exists_analyzeFile (names : project.NamesTemplates) (system : FileSystem)
    (schedule : Schedule) (path : Path) :
    ∃ report, project.analyzeFile system schedule path = some report := by
  rw [analyzeFile]
  split
  · next file _ =>
      cases yields :
        file.program.analyzeUnder (project.resolver system) system.read path schedule with
      | none =>
          rw [Program.analyzeUnder_eq_none_iff] at yields
          exact absurd yields.2.1 (names yields.1)
      | some result => exact ⟨_, rfl⟩
  · exact ⟨_, rfl⟩

theorem exists_runUnder (increasing : Path.Increasing project.files)
    (names : project.NamesTemplates) (size : Nat) :
    ∃ reports, project.runUnder size system schedules = some reports := by
  rw [runUnder_eq_mapM increasing]
  generalize project.files = files
  induction files with
  | nil => exact ⟨[], rfl⟩
  | cons path rest induction =>
      rcases exists_analyzeFile names system (schedules path) path with ⟨report, isReport⟩
      rcases induction with ⟨reports, succeeds⟩
      refine ⟨report :: reports, ?_⟩
      rw [mapM_eq_some_iff] at succeeds ⊢
      exact .cons isReport succeeds

/-! ## Two file systems -/

/-- Two projects see a file alike: they read the same, look for the same documents, and find
the same there. -/
structure SeeAlike (left : Project) (leftSystem : FileSystem) (right : Project)
    (rightSystem : FileSystem) (path : Path) : Prop where
  contents : leftSystem.read path = rightSystem.read path
  documents : ∀ program, HoldsProgram leftSystem path program →
    ∀ url, program.Declares url →
      (left.resolver leftSystem).documentPath? url path =
        (right.resolver rightSystem).documentPath? url path ∧
      ∀ document, (left.resolver leftSystem).documentPath? url path = some document →
        leftSystem.read document = rightSystem.read document

section

variable {left right : Project} {leftSystem rightSystem : FileSystem} {path : Path}

theorem SeeAlike.gives (alike : SeeAlike left leftSystem right rightSystem path)
    (absolute : path.isAbsolute = true) {schedule : Schedule} {outcome : Option Extraction}
    (gives : left.Gives leftSystem schedule path outcome) :
    right.Gives rightSystem schedule path outcome := by
  cases gives with
  | unreadable fails => exact .unreadable (alike.contents ▸ fails)
  | malformed isRead fails => exact .malformed (alike.contents ▸ isRead) fails
  | @analyzed program _ holds yields =>
      have documents := alike.documents program holds
      have sameSources : program.analyzeUnder (left.resolver leftSystem) leftSystem.read path
          schedule = program.analyzeUnder (left.resolver leftSystem) rightSystem.read path
          schedule := by
        apply Program.analyzeUnder_congr
        intro url document declares isDocument
        rw [(documents url declares).2 document isDocument]
      have sameResolvers : program.analyzeUnder (left.resolver leftSystem) rightSystem.read path
          schedule = program.analyzeUnder (right.resolver rightSystem) rightSystem.read path
          schedule := by
        have sameScanner : (left.resolver leftSystem).scanner =
            (right.resolver rightSystem).scanner := rfl
        exact Program.analyzeUnder_of_same_documents sameScanner
          (Path.absolute_of_isAbsolute absolute _ _)
          (fun url declares => (documents url declares).1) rightSystem.read schedule
      rcases holds with ⟨contents, isRead, succeeds⟩
      refine .analyzed ⟨contents, alike.contents ▸ isRead, succeeds⟩ ?_
      rw [← sameResolvers, ← sameSources, yields]

end

/-! ## Loaded projects -/

theorem isDirectory_of_empty {system : FileSystem} {path : Path} (empty : path.text = "") :
    system.isDirectory path = false := by
  rw [FileSystem.isDirectory, FileSystem.node, FileSystem.locate, if_pos empty]
  rfl

/-- A project that has been loaded: its root is a directory, and its files are those found
there. -/
theorem of_load {origin : FileSystem} {directory : Path}
    (loaded : load origin directory = .ok project) :
    project.root = Path.absolute origin.workingDirectory directory ∧
    origin.isDirectory project.root = true ∧
    project.files = (discover origin project.root project.config.includes project.config.ignores
      project.config.ignoreTestFiles).files := by
  rw [load] at loaded
  cases isDirectory : origin.isDirectory (Path.absolute origin.workingDirectory directory) with
  | false =>
      rw [isDirectory] at loaded
      cases loaded
  | true =>
      rw [isDirectory] at loaded
      cases configured : Config.load origin (Path.absolute origin.workingDirectory directory) with
      | error obstacle =>
          rw [configured] at loaded
          cases loaded
      | ok found =>
          rw [configured] at loaded
          cases loaded
          exact ⟨rfl, isDirectory, rfl⟩

/-- Nothing is loaded from the empty path. -/
theorem text_ne_of_load {origin : FileSystem} {directory : Path}
    (loaded : load origin directory = .ok project) : directory.text ≠ "" := by
  rcases of_load loaded with ⟨isRoot, isDirectory, _⟩
  intro empty
  rw [isRoot, Path.absolute_of_empty _ empty, isDirectory_of_empty empty] at isDirectory
  cases isDirectory

theorem files_of_load {origin : FileSystem} {directory : Path}
    (loaded : load origin directory = .ok project) :
    project.root.isAbsolute = true ∧
    project.files = (discover origin project.root project.config.includes project.config.ignores
      project.config.ignoreTestFiles).files := by
  rcases of_load loaded with ⟨isRoot, _, isFiles⟩
  rw [isRoot]
  exact ⟨Path.absolute_isAbsolute (text_ne_of_load loaded) _, isRoot ▸ isFiles⟩

section

variable {origin : FileSystem} {directory : Path}

theorem increasing_of_load (loaded : load origin directory = .ok project) :
    Path.Increasing project.files := by
  rw [(files_of_load loaded).2]
  exact Path.increasing_ordered _

theorem isAbsolute_of_load (loaded : load origin directory = .ok project) {path : Path}
    (member : path ∈ project.files) : path.isAbsolute = true := by
  rcases files_of_load loaded with ⟨absolute, isFiles⟩
  rw [isFiles] at member
  exact isAbsolute_of_mem_discover absolute member

/-- Reports on a file that two projects see alike. -/
theorem SeeAlike.reports {otherOrigin : FileSystem} {otherDirectory : Path} {other : Project}
    {otherSystem : FileSystem} {otherSchedules : Path → Schedule} {size otherSize : Nat}
    {reports otherReports : List FileReport} {report otherReport : FileReport}
    (alike : SeeAlike project system other otherSystem report.path)
    (loaded : load origin directory = .ok project)
    (otherLoaded : load otherOrigin otherDirectory = .ok other)
    (ran : project.runUnder size system schedules = some reports)
    (otherRan : other.runUnder otherSize otherSystem otherSchedules = some otherReports)
    (member : report ∈ reports) (otherMember : otherReport ∈ otherReports)
    (samePath : report.path = otherReport.path) :
    (report.result.errors = [] ↔ otherReport.result.errors = []) ∧
      report.result.components = otherReport.result.components ∧
      (schedules report.path = otherSchedules report.path ∨
          other.ReportsOneWay otherSystem report.path →
        report = otherReport) := by
  rcases analyzeFile_of_mem_runUnder (increasing_of_load loaded) ran member with ⟨isFile, isReport⟩
  have gives := alike.gives (isAbsolute_of_load loaded isFile) (gives_of_analyzeFile isReport)
  have otherGives := gives_of_analyzeFile
    (analyzeFile_of_mem_runUnder (increasing_of_load otherLoaded) otherRan otherMember).2
  rw [← samePath] at otherGives
  rcases gives.agree otherGives with ⟨errors, components, same⟩
  refine ⟨errors, components, fun sameReport => ?_⟩
  have sameResult := same sameReport
  cases report
  cases otherReport
  cases samePath
  cases sameResult
  rfl

end

/-- A run of a loaded project leaves reports wherever every template has a path. It then
reports once on every file that was found, in the order of the paths. What it reports on a file
is what the file gives on its own, and the same as a run over this file alone: components, or
one error. The size of the batches makes no difference. Two projects that see a file alike
report the same components on it, and an error both or neither, whatever else they hold and
whenever the reads complete. The reports are the same if the reads complete alike, or if the
registrations of the file do not fail in different ways or are too many to be watched
together. -/
theorem one_report_per_file {origin : FileSystem} {directory : Path} {project : Project}
    (loaded : load origin directory = .ok project) :
    (project.NamesTemplates → ∀ size system schedules,
      ∃ reports, project.runUnder size system schedules = some reports) ∧
    (∀ size system schedules reports, project.runUnder size system schedules = some reports →
      reports.map FileReport.path =
        (discover origin project.root project.config.includes project.config.ignores
          project.config.ignoreTestFiles).files ∧
      reports.Pairwise (fun left right => left.path.compare right.path = .lt) ∧
      (∀ report ∈ reports,
        (∀ outcome, project.Gives system (schedules report.path) report.path outcome ↔
          outcome = some report.result) ∧
        { project with files := [report.path] }.runUnder size system schedules =
          some [report] ∧
        (report.result.errors = [] ∨ ∃ error, report.result = ⟨[], [error]⟩)) ∧
      ∀ otherSize, project.runUnder otherSize system schedules = some reports) ∧
    (∀ otherOrigin otherDirectory other, load otherOrigin otherDirectory = .ok other →
      ∀ size otherSize system otherSystem schedules otherSchedules reports otherReports,
      project.runUnder size system schedules = some reports →
      other.runUnder otherSize otherSystem otherSchedules = some otherReports →
      ∀ report ∈ reports, ∀ otherReport ∈ otherReports,
        report.path = otherReport.path →
        SeeAlike project system other otherSystem report.path →
        (report.result.errors = [] ↔ otherReport.result.errors = []) ∧
        report.result.components = otherReport.result.components ∧
        (schedules report.path = otherSchedules report.path ∨
            other.ReportsOneWay otherSystem report.path →
          report = otherReport)) := by
  have increasing := increasing_of_load loaded
  refine ⟨fun names size system schedules => exists_runUnder increasing names size, ?_, ?_⟩
  · intro size system schedules reports ran
    have paths := map_path_of_runUnder increasing ran
    refine ⟨paths.trans (files_of_load loaded).2, ?_, ?_, ?_⟩
    · have inOrder : Path.Increasing (reports.map FileReport.path) := paths ▸ increasing
      exact List.pairwise_map.mp inOrder
    · intro report member
      have isReport := (analyzeFile_of_mem_runUnder increasing ran member).2
      have gives := gives_of_analyzeFile isReport
      exact ⟨fun outcome => ⟨fun other => other.unique gives, fun same => same ▸ gives⟩,
        runUnder_alone isReport size, gives.errors_eq_nil_or⟩
    · intro otherSize
      rw [← ran, runUnder_eq_mapM increasing, runUnder_eq_mapM increasing]
  · intro otherOrigin otherDirectory other otherLoaded size otherSize system otherSystem schedules
      otherSchedules reports otherReports ran otherRan report member otherReport otherMember
      samePath alike
    exact alike.reports loaded otherLoaded ran otherRan member otherMember samePath

/-! ## A file beside another one -/

/-- A project with two files, one of which may be anything. -/
def shop (dog : Option String) : FileSystem where
  root := .directory [("app", .directory
    [("cat.html", .file (some "<pet-card></pet-card>")),
      ("cat.js", .file (some "app.directive('cat', \x7b templateUrl: 'cat.html' \x7d);")),
      ("dog.js", .file dog)])]
  workingDirectory := ⟨"/"⟩

def shopProject : Project where
  config := .standard
  configSource := none
  root := ⟨"/app"⟩
  files := [⟨"/app/cat.js"⟩, ⟨"/app/dog.js"⟩]
  skipped := 0

/-- The report on a file is the same beside a malformed and beside an unreadable file. -/
theorem cat_reported_beside_any_dog :
    ∃ malformed unreadable,
      shopProject.runUnder 1 (shop (some "(")) (fun _ _ _ => 1) = some malformed ∧
      shopProject.runUnder 3 (shop none) (fun _ _ _ => 1) = some unreadable ∧
      malformed.map FileReport.path = [⟨"/app/cat.js"⟩, ⟨"/app/dog.js"⟩] ∧
      ∃ report ∈ malformed, ∃ otherReport ∈ unreadable, report = otherReport ∧
        report = ⟨⟨"/app/cat.js"⟩,
          [⟨"/app/cat.js", "cat", none, none, some "cat.html", ["pet-card"]⟩], []⟩ := by
  have loaded : load (shop none) ⟨"/app"⟩ = .ok shopProject := by decide +kernel
  have names : shopProject.NamesTemplates := fun _ => by decide
  rcases one_report_per_file loaded with ⟨exist, reports, agreement⟩
  rcases exist names 1 (shop (some "(")) fun _ _ _ => 1 with ⟨malformed, isMalformed⟩
  rcases exist names 3 (shop none) fun _ _ _ => 1 with ⟨unreadable, isUnreadable⟩
  have paths := (reports _ _ _ _ isMalformed).1.trans (files_of_load loaded).2.symm
  have cat : ∀ dog ∈ [some "(", none],
      shopProject.analyzeFile (shop dog) (fun _ _ => 1) ⟨"/app/cat.js"⟩ =
        some ⟨⟨"/app/cat.js"⟩,
          [⟨"/app/cat.js", "cat", none, none, some "cat.html", ["pet-card"]⟩], []⟩ := by
    decide +kernel
  have reported {dog : Option String} (isDog : dog ∈ [some "(", none]) {size : Nat}
      {found : List FileReport}
      (ran : shopProject.runUnder size (shop dog) (fun _ _ _ => 1) = some found) :
      (⟨⟨"/app/cat.js"⟩, [⟨"/app/cat.js", "cat", none, none, some "cat.html", ["pet-card"]⟩],
        []⟩ : FileReport) ∈ found := by
    rw [runUnder_eq_mapM (increasing_of_load loaded), mapM_eq_some_iff] at ran
    cases ran with
    | cons isReport rest =>
        rw [cat dog isDog, Option.some.injEq] at isReport
        exact isReport ▸ List.mem_cons_self
  have catReported := reported (by simp) isMalformed
  have catReportedToo := reported (by simp) isUnreadable
  have alike : SeeAlike shopProject (shop (some "(")) shopProject (shop none) ⟨"/app/cat.js"⟩ := by
    refine ⟨by decide +kernel, fun _ _ _ _ => ⟨rfl, fun document isDocument => ?_⟩⟩
    cases isDocument
    decide +kernel
  refine ⟨malformed, unreadable, isMalformed, isUnreadable, paths, _, catReported, _,
    catReportedToo, ?_, rfl⟩
  exact (agreement _ _ _ loaded 1 3 _ _ _ _ _ _ isMalformed isUnreadable _ catReported _
    catReportedToo rfl alike).2.2 (.inl rfl)

/-- A project with one file, which declares two templates that are no text. -/
def pair : FileSystem where
  root := .directory [("app", .directory
    [(".heklarc.json", .file (some "\x7b \"templateLookup\": \"declared\" \x7d")),
      ("a.html", .file none), ("b.html", .file none),
      ("pair.js", .file (some ("app.directive('a', \x7b templateUrl: 'a.html' \x7d);" ++
        "app.directive('b', \x7b templateUrl: 'b.html' \x7d);")))])]
  workingDirectory := ⟨"/"⟩

def pairProject : Project where
  config := { templateLookup := .declared }
  configSource := some ⟨"/app/.heklarc.json"⟩
  root := ⟨"/app"⟩
  files := [⟨"/app/pair.js"⟩]
  skipped := 0

/-- Of two failures of one file the one that is known first is reported, so that the reports
change with the order in which the reads complete. -/
theorem first_read_decides_report :
    load pair ⟨"/app"⟩ = .ok pairProject ∧
    pairProject.run pair (fun _ => Program.lateAt ⟨"/app/b.html"⟩) =
      some [⟨⟨"/app/pair.js"⟩,
        .failed (.unreadable "/app/a.html" ReadFailure.invalidData.toError)⟩] ∧
    pairProject.run pair (fun _ => Program.lateAt ⟨"/app/a.html"⟩) =
      some [⟨⟨"/app/pair.js"⟩,
        .failed (.unreadable "/app/b.html" ReadFailure.invalidData.toError)⟩] := by
  refine ⟨by decide +kernel, by decide +kernel, by decide +kernel⟩

end Project

end DirectiveScan
