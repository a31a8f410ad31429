import DirectiveScan.Extract.Error
import DirectiveScan.Grammar.Program
import DirectiveScan.Path.Basic

namespace DirectiveScan

/-! Source files. The extension of a file decides in which language it is read. -/

namespace Dialect

/-- The language with markup and without types. -/
def plain : Dialect := ⟨false, true⟩

/-- The language of a file. -/
def ofPath (path : Path) : Dialect :=
  match path.extension? with
  | some "ts" => ⟨true, false⟩
  | some "tsx" => ⟨true, true⟩
  | _ => plain

end Dialect

/-- A source file that has been read. -/
structure SourceFile where
  text : SourceText
  program : Program

/-- Read the source file at a path from its contents. -/
def SourceFile.read (path : Path) (contents : String) : Except ExtractError SourceFile :=
  let text := SourceText.ofString contents
  match Program.read (Dialect.ofPath path) text with
  | .ok program => .ok ⟨text, program⟩
  | .error fault => .error (.malformed path.text (some (text.locate fault.offset)))

end DirectiveScan
