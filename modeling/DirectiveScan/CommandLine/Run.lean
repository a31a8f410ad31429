import DirectiveScan.CommandLine.Command
import DirectiveScan.File.Update
import DirectiveScan.Query.Name
import DirectiveScan.Report.Basic

namespace DirectiveScan.CommandLine

/-! What the commands do. A command takes a file system to a file system, and has an
outcome. -/

/-- How a command ends: without errors, with errors in the files it has looked at, not at
all, or because the program has stopped. -/
inductive ExitStatus where
  | success
  | failure
  | error
  | stopped
deriving DecidableEq, Repr

def ExitStatus.code : ExitStatus → Nat
  | success => 0
  | failure => 1
  | error => 2
  | stopped => 101

/-- What a command that has come to its end leaves behind. -/
structure Outcome where
  status : ExitStatus
  output : String
  /-- Lines for the error channel. -/
  log : List String
deriving DecidableEq, Repr

/-- Why a command does not come to its end. -/
inductive Failure where
  | obstacle (cause : Obstacle)
  | extraction (cause : ExtractError)
deriving DecidableEq, Repr

def Failure.message : Failure → String
  | obstacle cause => cause.message
  | extraction cause => cause.message

def Failure.status : Failure → ExitStatus
  | obstacle (.unusableExtension _) => .stopped
  | _ => .error

/-! ## Scanning -/

/-- What the log of a scan says about the configuration. -/
def configLine (source : Option Path) : String :=
  match source with
  | some path => "loaded configuration " ++ path.text
  | none => "no " ++ Config.fileName.text ++ " found, using default configuration"

/-- The line on what the walks could not access. -/
def skippedLines (skipped : Nat) (verbose : Bool) : List String :=
  if skipped = 0 then []
  else
    [toString skipped ++ " path(s) skipped due to access errors" ++
      if verbose then "" else " (use -v for details)"]

/-- The lines on files that could not be read. -/
def unreadLines (system : FileSystem) (files : List Path) : List String :=
  files.filterMap fun path =>
    match Project.readFile system path with
    | .ok _ => none
    | .error error => some (path.text ++ ": " ++ error.message)

def scanLog (system : FileSystem) (project : Project) (verbose : Bool) : List String :=
  let config := project.config
  (if verbose then [configLine project.configSource] else []) ++
    Discovery.warnings system project.root config.includes config.ignores ++
    skippedLines project.skipped verbose ++
    unreadLines system project.files

/-- Scan a project. The reads of templates complete as scheduled for each file. -/
def scan (system : FileSystem) (schedules : Path → Schedule) (colored : Bool) (root : Path)
    (format : Format) (verbose : Bool) : Except Failure Outcome := do
  let project ← (Project.load system root).mapError Failure.obstacle
  let some reports := project.run system schedules
    | throw (.obstacle (.unusableExtension project.config.extension))
  let output :=
    match format with
    | .text => Report.text colored project.displayPath reports
    | .json => Report.json project.displayPath reports
  let isOk := reports.all fun report => report.result.isOk
  return ⟨if isOk then .success else .failure, output, scanLog system project verbose⟩

/-! ## Calls -/

def callLine (colored : Bool) (line : Nat) (name : Except ExtractError String) : String :=
  let text :=
    match name with
    | .ok name => name
    | .error error =>
        Report.paint colored .yellow ("<" ++ error.kind.text ++ ">") ++ " " ++ error.message
  Report.paint colored .blue (toString line) ++ ": " ++ text ++ "\n"

def callLines (colored : Bool) (file : SourceFile) : List String :=
  ((Start.program file.program).findKind .callExpression).map fun call =>
    let line :=
      match call with
      | .call offset _ _ _ => (file.text.locate offset).line
      | _ => 1
    callLine colored line call.callName

def calls (system : FileSystem) (colored : Bool) (path : Path) : Except Failure Outcome := do
  let contents ← (system.read path).mapError fun cause => .obstacle (.unreadableFile path cause)
  let file ← (SourceFile.read path contents).mapError Failure.extraction
  return ⟨.success, String.join (callLines colored file), []⟩

/-! ## Configuration -/

/-- Write a configuration file with the standard settings, unless there is one. -/
def init (system : FileSystem) (colored : Bool) : FileSystem × Except Failure Outcome :=
  let path := Config.fileName
  if system.holds path then
    (system, .ok ⟨.failure, "", ["Error: " ++ path.text ++ " already exists"]⟩)
  else
    match system.write path Config.standard.toJson.write with
    | .error failure => (system, .error (.obstacle (.unwritableFile path failure.toError)))
    | .ok written =>
        (written, .ok ⟨.success,
          Report.paint colored .green Report.successMark ++ " " ++
            Report.paint colored .green ("Created " ++ path.text) ++ "\n", []⟩)

/-! ## Commands -/

/-- Carry out a command; without one, help is shown. -/
def run (system : FileSystem) (schedules : Path → Schedule) (colored : Bool) :
    Option Command → FileSystem × Except Failure Outcome
  | none => (system, .ok ⟨.success, helpText, []⟩)
  | some (.scan root format verbose) => (system, scan system schedules colored root format verbose)
  | some (.calls file _) => (system, calls system colored file)
  | some .init => init system colored

def Refusal.status : Refusal → ExitStatus
  | .help _ => .success
  | .version => .success
  | _ => .error

/-- What is printed when arguments are refused. -/
def Refusal.outcome (refusal : Refusal) : Outcome :=
  match refusal with
  | .help text => ⟨.success, text, []⟩
  | .version => ⟨.success, versionText, []⟩
  | _ =>
      ⟨.error, "",
        ["error: the arguments are not understood", "For more information, try '--help'."]⟩

/-- Everything that arguments lead to. -/
def perform (system : FileSystem) (schedules : Path → Schedule) (colored : Bool)
    (arguments : List String) : FileSystem × Outcome :=
  match read arguments with
  | .error refusal => (system, refusal.outcome)
  | .ok command =>
      match run system schedules colored command with
      | (after, .ok outcome) => (after, outcome)
      | (after, .error failure) => (after, ⟨failure.status, "", ["Error: " ++ failure.message]⟩)

end DirectiveScan.CommandLine
