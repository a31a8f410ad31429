import DirectiveScan.Extract.Error
import DirectiveScan.Path.Basic

namespace DirectiveScan

/-! Where documents are read from. -/

/-- A source of documents: what reading the document at a path gives. -/
abbrev FileSource := Path → Except ReadError String

/-- What a place in memory holds. -/
inductive MemoryContent where
  | text (text : String)
  | failing (failure : ReadFailure)

structure MemoryFile where
  path : Path
  content : MemoryContent
  /-- The step at which a read of the file is complete. -/
  delay : Nat

/-- Documents in memory. Of two files at the same place, the later one counts. -/
abbrev MemoryFiles := List MemoryFile

namespace MemoryFiles

/-- The file at a place. -/
def find? (files : MemoryFiles) (path : Path) : Option MemoryFile :=
  files.reverse.find? fun file => file.path.same path

/-- The outcome of reading a file under a path. -/
def outcomeOf (path : Path) : MemoryContent → Except ReadError String
  | .text text => .ok text
  | .failing failure => .error ⟨failure, path.text⟩

def source (files : MemoryFiles) : FileSource := fun path =>
  match files.find? path with
  | some file => outcomeOf path file.content
  | none => .error ⟨.notFound, path.text ++ " does not exist"⟩

/-- The step at which a read is complete. That nothing is there is known at once. -/
def delayAt (files : MemoryFiles) (path : Path) : Nat :=
  match files.find? path with
  | some file => file.delay
  | none => 0

end MemoryFiles

end DirectiveScan
