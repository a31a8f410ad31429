import DirectiveScan.Path.Basic

namespace DirectiveScan.Path

/-! Absolute paths without points. Components are run over a stack of names: a
name is pushed, the parent drops the top, and the root clears the stack. -/

/-- The effect of a component on a stack of names, innermost name first. -/
def collapse (stack : List String) : Component → List String
  | .root => []
  | .current => stack
  | .parent => stack.tail
  | .name name => name :: stack

/-- The path of a stack of names. -/
def ofStack (stack : List String) : Path := ofBody true stack.reverse

/-- The absolute form of a path, seen from a working directory. The empty path
has none and stays as it is. -/
def absolute (workingDirectory path : Path) : Path :=
  if path.text = "" then path
  else
    let start := if path.isAbsolute then [] else workingDirectory.components.foldl collapse []
    ofStack (path.components.foldl collapse start)

/-- What follows the last exclamation mark: a required path without the names of
the loaders in front of it. -/
def withoutLoaders (required : String) : Path :=
  ⟨(Text.split '!' required).getLast?.getD required⟩

/-- The path that a file requires, seen from the directory of the file. -/
def required (workingDirectory : Path) (required : String) (file : Path) : Path :=
  absolute workingDirectory ((file.parent?.getD ⟨""⟩).join (withoutLoaders required))

end DirectiveScan.Path
