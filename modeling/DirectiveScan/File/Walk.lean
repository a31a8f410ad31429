import DirectiveScan.File.System

namespace DirectiveScan

/-! Everything below a place of a file system. Links below the place are not
followed. -/

/-- Why a walk cannot go on from a path. -/
structure WalkError where
  path : Path
  failure : ReadFailure
deriving DecidableEq, Repr

def WalkError.text (error : WalkError) : String :=
  "IO error for operation on " ++ error.path.text ++ ": " ++ error.failure.text

/-- What a walk comes to: a node with its path, or a place from which it cannot go on. -/
abbrev Encounter := Except WalkError (Path × FileNode)

def Encounter.error? : Encounter → Option WalkError
  | .error error => some error
  | .ok _ => none

namespace FileNode

mutual

/-- Everything below a node, each with its path. -/
def walkInside (path : Path) : FileNode → List Encounter
  | file _ => []
  | link _ => []
  | directory entries => walkEntries path entries
  | locked => [.error ⟨path, .permissionDenied⟩]

def walkEntries (path : Path) : List (String × FileNode) → List Encounter
  | [] => []
  | (name, node) :: rest =>
      .ok (path.join ⟨name⟩, node) ::
        (node.walkInside (path.join ⟨name⟩) ++ walkEntries path rest)

end

/-- A node and everything below it, each with its path. -/
def walk (path : Path) (node : FileNode) : List Encounter :=
  .ok (path, node) :: node.walkInside path

end FileNode

namespace FileSystem

/-- Everything at and below a path, or why the path leads nowhere. A link at the path
itself is followed to a directory. -/
def walk (system : FileSystem) (path : Path) : List Encounter :=
  match system.entry path with
  | .error failure => [.error ⟨path, failure⟩]
  | .ok (.link target) =>
      match system.node path with
      | .error failure => [.error ⟨path, failure⟩]
      | .ok behind => .ok (path, .link target) :: behind.walkInside path
  | .ok node => node.walk path

end FileSystem

end DirectiveScan
