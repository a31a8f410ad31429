import DirectiveScan.Extract.Error
import DirectiveScan.Path.Absolute

namespace DirectiveScan

/-! File systems as trees.

A path is followed piece by piece from the root of the tree. Links on the way are
replaced by their targets, and a piece that leads to the parent does so from where
the walk has come to, not from what the path says. -/

inductive FileNode where
  /-- A file, with its text if its contents are text. -/
  | file (text? : Option String)
  | link (target : Path)
  | directory (entries : List (String × FileNode))
  /-- A directory that may be neither listed nor entered. -/
  | locked
deriving Repr

namespace FileNode

def isDirectory : FileNode → Bool
  | directory _ => true
  | locked => true
  | _ => false

/-- Whether the entries of a node can be listed. -/
def isListable : FileNode → Bool
  | directory _ => true
  | _ => false

def isFile : FileNode → Bool
  | file _ => true
  | _ => false

def entries : FileNode → List (String × FileNode)
  | directory entries => entries
  | _ => []

/-- The node below a node under the given names. Links are not followed. -/
def descendant? : FileNode → List String → Option FileNode
  | node, [] => some node
  | node, name :: names => (node.entries.lookup name).bind (descendant? · names)

mutual

/-- The number of nodes of a tree. -/
def size : FileNode → Nat
  | file _ => 1
  | link _ => 1
  | locked => 1
  | directory entries => sizeOfEntries entries + 1

def sizeOfEntries : List (String × FileNode) → Nat
  | [] => 0
  | (_, node) :: rest => node.size + sizeOfEntries rest

end

end FileNode

structure FileSystem where
  root : FileNode
  /-- Where relative paths start. -/
  workingDirectory : Path

/-- Where a path leads: to a node, or to a name that a directory does not hold yet. -/
inductive Place where
  | occupied (names : List String) (node : FileNode)
  | vacant (directory : List String) (name : String)

namespace FileSystem

/-- How many links one path may lead through. -/
def linkLimit : Nat := 40

/-- The longest name of an entry, in bytes. -/
def nameLimit : Nat := 255

/-- What to do at a link: go on from a directory with further pieces. -/
abbrev Jump := List String → List String → Except ReadFailure Place

/-- Follow pieces from the directory with the given names. A link at the end is only
followed if it has to be. -/
def followWith (root : FileNode) (jump : Jump) (followsEnd : Bool) (here : List String) :
    List String → Except ReadFailure Place
  | [] =>
      match root.descendant? here with
      | some node => .ok (.occupied here node)
      | none => .error .notFound
  | piece :: rest =>
      match root.descendant? here with
      | some (.directory entries) =>
          if nameLimit < piece.utf8ByteSize then .error .nameTooLong
          else if !Path.isSignificant piece then followWith root jump followsEnd here rest
          else if piece = ".." then followWith root jump followsEnd here.dropLast rest
          else
            match entries.lookup piece with
            | none => if rest.isEmpty then .ok (.vacant here piece) else .error .notFound
            | some (.link target) =>
                if rest.isEmpty && !followsEnd then
                  .ok (.occupied (here ++ [piece]) (.link target))
                else jump (if target.isAbsolute then [] else here) (target.body ++ rest)
            | some _ => followWith root jump followsEnd (here ++ [piece]) rest
      | some .locked =>
          if piece = "" then followWith root jump followsEnd here rest
          else .error .permissionDenied
      | some _ => .error .notADirectory
      | none => .error .notFound

/-- Follow pieces through at most the given number of links. -/
def follow (root : FileNode) (followsEnd : Bool) : Nat → Jump
  | 0 => followWith root (fun _ _ => .error .tooManyLinks) followsEnd
  | links + 1 => followWith root (follow root followsEnd links) followsEnd

/-- Where a path leads. -/
def locate (system : FileSystem) (followsEnd : Bool) (path : Path) : Except ReadFailure Place :=
  if path.text = "" then .error .notFound
  else if path.text.toList.contains '\x00' then .error .endInsidePath
  else follow system.root followsEnd linkLimit [] (system.workingDirectory.join path).body

/-- The node at a path, behind links. -/
def node (system : FileSystem) (path : Path) : Except ReadFailure FileNode :=
  match system.locate true path with
  | .ok (.occupied _ node) => .ok node
  | .ok (.vacant _ _) => .error .notFound
  | .error failure => .error failure

/-- The node at a path, which may be a link. -/
def entry (system : FileSystem) (path : Path) : Except ReadFailure FileNode :=
  match system.locate false path with
  | .ok (.occupied _ node) => .ok node
  | .ok (.vacant _ _) => .error .notFound
  | .error failure => .error failure

/-- Whether something is at a path, behind links. -/
def holds (system : FileSystem) (path : Path) : Bool := (system.node path).toOption.isSome

def isDirectory (system : FileSystem) (path : Path) : Bool :=
  (system.node path).toOption.any FileNode.isDirectory

/-- Whether the entries of the directory at a path can be listed. -/
def isListable (system : FileSystem) (path : Path) : Bool :=
  (system.node path).toOption.any FileNode.isListable

/-- The text of the file at a path. -/
def read (system : FileSystem) (path : Path) : Except ReadError String :=
  match system.node path with
  | .ok (.file (some text)) => .ok text
  | .ok (.file none) => .error ReadFailure.invalidData.toError
  | .ok (.directory _) => .error ReadFailure.isADirectory.toError
  | .ok .locked => .error ReadFailure.permissionDenied.toError
  | .ok (.link _) => .error ReadFailure.notFound.toError
  | .error failure => .error failure.toError

end FileSystem

end DirectiveScan
