import DirectiveScan.Directive.Basic
import DirectiveScan.Extract.Attempt
import DirectiveScan.Template.Lookup

namespace DirectiveScan

/-! Analysis of one source file.

Every registration of the file is a candidate. A file yields either all of its
components or one error, unless the program stops at a template that has no path.
Candidates are followed side by side, and the reads of their templates may complete in
any order; the order of the components is that of the registrations in the file. -/

/-- One recognized registration. -/
structure Descriptor where
  /-- Absolute path of the registering file. -/
  path : String
  name : String
  module : Option String
  scope : Option Scope
  templatePath : Option String
  dependencies : List String
deriving DecidableEq, Repr

/-- What a file yields. -/
structure Extraction where
  components : List Descriptor
  errors : List ExtractError
deriving DecidableEq, Repr

namespace Extraction

def failed (error : ExtractError) : Extraction := ⟨[], [error]⟩

def isOk (extraction : Extraction) : Bool := extraction.errors.isEmpty

/-- What a file yields when its candidates have been followed. There is nothing where the
program stops. -/
def ofResult : Except Halt (List Descriptor) → Option Extraction
  | .ok components => some ⟨components, []⟩
  | .error (.failed error) => some (failed error)
  | .error .stopped => none

end Extraction

/-- A registration on its way to a component. -/
abbrev Candidate := Attempt Halt Descriptor

/-- When reads complete: the round in which the document that the candidate at a place
asks for is there. -/
abbrev Schedule := Nat → Path → Nat

/-- The schedule of documents in memory, which are read alike for every candidate. -/
def MemoryFiles.schedule (files : MemoryFiles) : Schedule :=
  fun _ document => files.delayAt document

namespace Candidate

/-- The descriptor of a declaration, given what its template depends on. -/
def describe (declaration : Declaration) (origin : Path) (dependencies : List String) :
    Descriptor where
  path := origin.text
  name := declaration.name
  module := declaration.module
  scope := declaration.scope
  templatePath := declaration.templatePath
  dependencies := dependencies

/-- The component of a registration that has been read. -/
def extract (resolver : TemplateResolver) (files : FileSource) (file : Path) :
    Except ExtractError Declaration → Except Halt Descriptor
  | .error error => .error (.failed error)
  | .ok declaration =>
      (resolver.dependencies files declaration.templatePath file).map
        (describe declaration (Path.absolute resolver.workingDirectory file))

/-- The round in which the component of a registration is known. What comes to its end
without reading a template is known at once. -/
def knownAt (resolver : TemplateResolver) (file : Path) (readAt : Path → Nat) :
    Except ExtractError Declaration → Nat
  | .error _ => 0
  | .ok declaration =>
      match declaration.templatePath.bind fun template => resolver.documentPath? template file with
      | none => 0
      | some document => readAt document

/-- The candidate of a registration. -/
def ofDeclaration (resolver : TemplateResolver) (files : FileSource) (file : Path)
    (readAt : Path → Nat) (declaration : Except ExtractError Declaration) : Candidate :=
  ⟨knownAt resolver file readAt declaration, extract resolver files file declaration⟩

end Candidate

namespace Program

/-- The candidates of a program, in the order of its registrations. -/
def candidates (program : Program) (resolver : TemplateResolver) (files : FileSource)
    (file : Path) (schedule : Schedule) : List Candidate :=
  (Directive.readAll (.program program)).mapIdx fun place =>
    Candidate.ofDeclaration resolver files file (schedule place)

/-- Everything that the registrations of a program yield when reads complete as scheduled,
unless the program stops at one of them. -/
def analyzeUnder (program : Program) (resolver : TemplateResolver) (files : FileSource)
    (file : Path) (schedule : Schedule) : Option Extraction :=
  Extraction.ofResult (Attempt.join (program.candidates resolver files file schedule))

end Program

end DirectiveScan
