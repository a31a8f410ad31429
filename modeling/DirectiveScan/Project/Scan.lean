import DirectiveScan.Config.Load
import DirectiveScan.Extract.Analysis
import DirectiveScan.Extract.Source
import DirectiveScan.Project.Discovery
import DirectiveScan.Template.Element

namespace DirectiveScan

/-! Scanning a project: every source file is analyzed on its own. -/

/-- What a file of a project yields. -/
structure FileReport where
  path : Path
  result : Extraction
deriving DecidableEq, Repr

structure Project where
  config : Config
  /-- The configuration file in use. -/
  configSource : Option Path
  /-- Absolute path of the root directory. -/
  root : Path
  files : List Path
  skipped : Nat
deriving DecidableEq, Repr

namespace Project

/-- The project in a directory. -/
def load (system : FileSystem) (directory : Path) : Except Obstacle Project := do
  let root := Path.absolute system.workingDirectory directory
  if !system.isDirectory root then throw (.missingRoot root)
  let loaded ← Config.load system root
  let config := loaded.config
  let discovery := discover system root config.includes config.ignores config.ignoreTestFiles
  return ⟨config, loaded.source, root, discovery.files, discovery.skipped⟩

/-- How templates of a project are found. -/
def resolver (project : Project) (system : FileSystem) : TemplateResolver where
  scanner := Template.customElementScanner
  lookup := project.config.templateLookup
  extension := project.config.extension
  workingDirectory := system.workingDirectory

/-- Read a source file of a file system. -/
def readFile (system : FileSystem) (path : Path) : Except ExtractError SourceFile :=
  match system.read path with
  | .ok contents => SourceFile.read path contents
  | .error cause => .error (.unreadable path.text cause)

/-- What one file yields when the reads of its templates complete as scheduled, unless the
program stops there. -/
def analyzeFile (project : Project) (system : FileSystem) (schedule : Schedule) (path : Path) :
    Option FileReport :=
  match readFile system path with
  | .ok file =>
      (file.program.analyzeUnder (project.resolver system) system.read path schedule).map
        (⟨path, ·⟩)
  | .error error => some ⟨path, .failed error⟩

/-! ## Batches

Files are read in batches, so that only the programs of one batch are held at a time. -/

/-- The first items of a list, as many as a batch holds, and the batches of the rest.
A batch holds one item more than the number says. -/
def batchesFrom (size room : Nat) : List α → List (List α)
  | [] => []
  | item :: rest =>
      match room, batchesFrom size (if room = 0 then size else room - 1) rest with
      | 0, batches => [item] :: batches
      | _ + 1, [] => [[item]]
      | _ + 1, batch :: batches => (item :: batch) :: batches

/-- A list in batches of the given size. A size of zero counts as one. -/
def batches (size : Nat) (items : List α) : List (List α) := batchesFrom (size - 1) (size - 1) items

/-- How many files are read together. -/
def batchSize : Nat := 64

/-- Put a report behind all reports whose paths are not greater. -/
def insertReport (report : FileReport) : List FileReport → List FileReport
  | [] => [report]
  | first :: rest =>
      if report.path.compare first.path = .lt then report :: first :: rest
      else first :: insertReport report rest

/-- Reports in the order of their paths. -/
def sortReports (reports : List FileReport) : List FileReport :=
  reports.foldl (fun sorted report => insertReport report sorted) []

/-- Analyze every file of a project, in batches of the given size. Each file has a schedule
of its own for the reads of its templates. There are no reports at all if the program stops
at one of the files. -/
def runUnder (size : Nat) (project : Project) (system : FileSystem)
    (schedules : Path → Schedule) : Option (List FileReport) := do
  let reports ← (batches size project.files).mapM fun batch =>
    batch.mapM fun path => project.analyzeFile system (schedules path) path
  return sortReports reports.flatten

/-- Analyze every file of a project. -/
def run (project : Project) (system : FileSystem) (schedules : Path → Schedule) :
    Option (List FileReport) :=
  runUnder batchSize project system schedules

/-- A path as it is shown: seen from the root of the project. -/
def displayPath (project : Project) (path : Path) : String := (path.relativeTo project.root).text

end Project

end DirectiveScan
