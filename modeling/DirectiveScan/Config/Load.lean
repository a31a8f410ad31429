import DirectiveScan.Config.Basic
import DirectiveScan.File.System
import DirectiveScan.Json.Read

namespace DirectiveScan

/-! Finding and reading the configuration file of a project. -/

/-- Why a command cannot go on. -/
inductive Obstacle where
  | missingRoot (root : Path)
  | unreadableConfig (path : Path) (cause : ReadError)
  | malformedConfig (path : Path)
  | invalidConfig (cause : Config.Invalid)
  | unreadableFile (path : Path) (cause : ReadError)
  | unwritableFile (path : Path) (cause : ReadError)
  | unusableExtension (extension : String)
deriving DecidableEq, Repr

def Obstacle.message : Obstacle → String
  | missingRoot root => "Root directory does not exist: " ++ root.text
  | unreadableConfig path cause => "Failed to read config file: " ++ path.text ++ ": " ++ cause.text
  | malformedConfig path => "Failed to parse config file: " ++ path.text
  | invalidConfig cause => cause.message
  | unreadableFile path cause => "Failed to read " ++ path.text ++ ": " ++ cause.text
  | unwritableFile path cause => "Failed to write " ++ path.text ++ ": " ++ cause.text
  | unusableExtension extension =>
      "extension cannot contain path separators: \"" ++ extension ++ "\""

namespace Config

def fileName : Path := ⟨".heklarc.json"⟩

/-- The entry that marks the root of a repository. -/
def repositoryMark : Path := ⟨".git"⟩

/-- A path and those above it, as many as the number says. -/
def ancestors : Nat → Path → List Path
  | 0, path => [path]
  | count + 1, path =>
      match path.parent? with
      | none => [path]
      | some parent => path :: ancestors count parent

/-- The configuration file of the first directory that has one. A repository is not
left. -/
def findIn? (system : FileSystem) : List Path → Option Path
  | [] => none
  | directory :: rest =>
      if system.holds (directory.join fileName) then some (directory.join fileName)
      else if system.holds (directory.join repositoryMark) then none
      else findIn? system rest

/-- The configuration file for a directory: its own, or that of a directory above. -/
def find? (system : FileSystem) (directory : Path) : Option Path :=
  findIn? system (ancestors directory.body.length directory)

/-- The settings that a text holds, if they can be used. -/
def ofText (path : Path) (text : String) : Except Obstacle Config :=
  match (JsonValue.read? text).bind ofJson? with
  | none => .error (.malformedConfig path)
  | some config =>
      match config.invalid? with
      | none => .ok config
      | some cause => .error (.invalidConfig cause)

/-- Settings, and the file that they come from. -/
structure Loaded where
  config : Config
  source : Option Path

/-- The settings for a directory. -/
def load (system : FileSystem) (directory : Path) : Except Obstacle Loaded :=
  match find? system directory with
  | none => .ok ⟨standard, none⟩
  | some path =>
      match system.read path with
      | .error cause => .error (.unreadableConfig path cause)
      | .ok text => (ofText path text).map fun config => ⟨config, some path⟩

end Config

end DirectiveScan
