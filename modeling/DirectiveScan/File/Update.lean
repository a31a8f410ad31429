import DirectiveScan.File.System

namespace DirectiveScan

/-! Changes of a file system. -/

namespace FileNode

/-- Entries with a node under a name, in the place of one that had the name. -/
def putEntry (name : String) (node : FileNode) :
    List (String × FileNode) → List (String × FileNode)
  | [] => [(name, node)]
  | entry :: rest =>
      if entry.1 = name then (name, node) :: rest else entry :: putEntry name node rest

/-- A tree with a node under the given names. What is no directory on the way
becomes one. -/
def put (node : FileNode) : List String → FileNode → FileNode
  | [], _ => node
  | name :: names, tree =>
      let below := (tree.entries.lookup name).getD (.directory [])
      .directory (putEntry name (put node names below) tree.entries)

/-- A tree without what is under the given names. -/
def remove : List String → FileNode → FileNode
  | [], _ => .directory []
  | [name], tree => .directory (tree.entries.filter fun entry => entry.1 != name)
  | name :: names, tree =>
      match tree.entries.lookup name with
      | none => tree
      | some below => .directory (putEntry name (remove names below) tree.entries)

end FileNode

namespace FileSystem

/-- The file system with a node at a path. The directory must be there. -/
def put (system : FileSystem) (path : Path) (node : FileNode) :
    Except ReadFailure FileSystem := do
  match ← system.locate true path with
  | .occupied names _ => return { system with root := FileNode.put node names system.root }
  | .vacant directory name =>
      return { system with root := FileNode.put node (directory ++ [name]) system.root }

/-- Write a file. -/
def write (system : FileSystem) (path : Path) (text : String) : Except ReadFailure FileSystem :=
  if system.isDirectory path then .error .isADirectory else system.put path (.file (some text))

/-- Make a directory under each of the given pieces, one below the other. What is
there already stays. -/
def makeDirectories (system : FileSystem) (start : Path) :
    List String → Except ReadFailure FileSystem
  | [] => .ok system
  | piece :: rest => do
      let path := start.join ⟨piece⟩
      let system ← if system.holds path then .ok system else system.put path (.directory [])
      makeDirectories system path rest

/-- Make the directory at a path, and those above it. -/
def makeDirectory (system : FileSystem) (path : Path) : Except ReadFailure FileSystem :=
  let path := system.workingDirectory.join path
  system.makeDirectories ⟨"/"⟩ (path.body.filter Path.isSignificant)

/-- Remove what is at a path. A link at its end is removed itself. -/
def remove (system : FileSystem) (path : Path) : Except ReadFailure FileSystem := do
  match ← system.locate false path with
  | .occupied names _ => return { system with root := system.root.remove names }
  | .vacant _ _ => .error .notFound

end FileSystem

end DirectiveScan
