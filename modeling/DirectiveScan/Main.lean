import DirectiveScan.CommandLine.Run

namespace DirectiveScan.Disk

/-! The program on a real disk.

Commands work on file systems as values. The parts of the disk that a command can come
to are taken into such a value before it runs: first the directories that hold the
project and its configuration, then the text of the source files, and then the
templates that they declare. -/

/-- The names of an absolute path. -/
def namesOf (path : String) : List String := (Path.mk path).body.filter Path.isSignificant

/-- What is at a path on the disk, without the text of files. A link leads to the path
that it stands for, and a broken one to itself. -/
partial def nodeAt (path : String) : IO FileNode := do
  let place := (← IO.currentDir) / path
  let isLink := (← place.symlinkMetadata).type == .symlink
  if isLink then
    let target ← try IO.FS.realPath place catch _ => pure place
    return .link ⟨target.toString⟩
  else if ← place.isDir then
    let entries? ← try some <$> place.readDir catch _ => pure none
    let some entries := entries? | return .locked
    let nodes ← entries.toList.mapM fun entry => do
      return (entry.fileName, ← nodeAt entry.path.toString)
    return .directory nodes
  else return .file none

/-- Take a node into a file system. -/
def take (system : FileSystem) (path : String) (node : FileNode) : FileSystem :=
  { system with root := FileNode.put node (namesOf path) system.root }

/-- Take the links on the way to a path into a file system. -/
def takeLinks (system : FileSystem) (path : Path) : IO FileSystem := do
  let above := (Config.ancestors path.body.length path).reverse
  above.foldlM (fun system path => do
    let place := (← IO.currentDir) / path.text
    let isLink ← try pure ((← place.symlinkMetadata).type == .symlink) catch _ => pure false
    if isLink && !(system.entry path).toOption.isSome then
      let parent ← IO.FS.realPath (place.parent.getD place)
      let link := (parent / (place.fileName.getD "")).toString
      return take system link (.link ⟨(← IO.FS.realPath place).toString⟩)
    else return system) system

/-- Take everything at and below a path into a file system. -/
def takeTree (system : FileSystem) (path : Path) : IO FileSystem := do
  let place := (← IO.currentDir) / path.text
  if ← place.pathExists then
    let system ← takeLinks system path
    let target := (← IO.FS.realPath place).toString
    return take system target (← nodeAt target)
  else return system

/-- Take a file with its text into a file system. What is no text is left without one,
and a directory without its entries. -/
def takeText (system : FileSystem) (path : Path) : IO FileSystem := do
  let place := (← IO.currentDir) / path.text
  if ← place.pathExists then
    let system ← takeLinks system path
    let target := (← IO.FS.realPath place).toString
    if ← place.isDir then
      return if system.holds path then system else take system target (.directory [])
    else
      let contents ← IO.FS.readBinFile place
      return take system target (.file (String.fromUTF8? contents))
  else return system

/-- Take the files that decide about the configuration of a directory. -/
def takeConfig (system : FileSystem) (directory : Path) : IO FileSystem := do
  let directories := Config.ancestors directory.body.length directory
  directories.foldlM (fun system directory => do
    let system ← takeText system (directory.join Config.repositoryMark)
    takeText system (directory.join Config.fileName)) system

/-- The part of a path before its first wildcard. -/
def anchor (path : Path) : Path :=
  let pieces := path.body.takeWhile fun piece =>
    !Glob.Pattern.isMeant piece && !piece.toList.contains '['
  Path.ofBody path.isAbsolute pieces

/-- The templates that a source file may look for. -/
def templatesOf (system : FileSystem) (project : Project) (path : Path) : List Path :=
  match Project.readFile system path with
  | .error _ => []
  | .ok file =>
      (Directive.readAll (.program file.program)).filterMap fun declaration =>
        (declaration.toOption.bind Declaration.templatePath).bind fun template =>
          (project.resolver system).documentPath? template path

/-- The part of the disk that a scan can come to. -/
def takeProject (system : FileSystem) (root : Path) : IO FileSystem := do
  let root := Path.absolute system.workingDirectory root
  let system ← takeConfig system root
  let includes := ((Config.load system root).toOption.map fun loaded => loaded.config.includes).getD []
  let anchors := root :: includes.map fun text => anchor (root.join ⟨text⟩)
  let system ← takeConfig (← anchors.foldlM takeTree system) root
  match Project.load system root with
  | .error _ => return system
  | .ok project =>
      let system ← project.files.foldlM takeText system
      (project.files.flatMap (templatesOf system project)).foldlM takeText system

/-- The part of the disk that a command can come to. -/
def snapshot (command : Option CommandLine.Command) : IO FileSystem := do
  let workingDirectory := (← IO.FS.realPath (← IO.currentDir)).toString
  let system : FileSystem :=
    { root := FileNode.put (.directory []) (namesOf workingDirectory) (.directory [])
      workingDirectory := ⟨workingDirectory⟩ }
  match command with
  | none => return system
  | some (.scan root _ _) => takeProject system root
  | some (.calls file _) => takeText system file
  | some .init => takeText system Config.fileName

/-- In the file system of a snapshot every template is there after one step. -/
def schedules : Path → Schedule := fun _ _ _ => 1

/-- Bring back to the disk what a command has written. -/
def restore (before after : FileSystem) : IO Unit := do
  match before.read Config.fileName, after.read Config.fileName with
  | .error _, .ok text => IO.FS.writeFile Config.fileName.text text
  | _, _ => return ()

end DirectiveScan.Disk

open DirectiveScan in
/-- Run the program with the given arguments. -/
def main (arguments : List String) : IO UInt32 := do
  let output ← IO.getStdout
  let colored := (← output.isTty) && (← IO.getEnv "NO_COLOR").isNone
  let system ← Disk.snapshot ((CommandLine.read arguments).toOption.join)
  let (after, outcome) := CommandLine.perform system Disk.schedules colored arguments
  Disk.restore system after
  output.putStr outcome.output
  output.flush
  let errors ← IO.getStderr
  for line in outcome.log do
    errors.putStrLn line
  return outcome.status.code.toUInt32
