import DirectiveScan.File.Source
import DirectiveScan.Path.Absolute

namespace DirectiveScan

/-! Where the template of a directive is looked for, and what it depends on. -/

inductive TemplateLookup where
  /-- Next to the registering file, under its name with another extension. What
  the directive declares only decides whether there is a template. -/
  | companion
  /-- Where the directive declares it, seen from the registering file. -/
  | declared
deriving DecidableEq, Repr

/-- The extension of templates when nothing else is said. -/
def defaultTemplateExtension : String := "html"

/-- What the contents of a document depend on, as read by a scanner that is told the path of
the document. -/
abbrev MarkupScanner := String → Path → List String

/-- How templates are found and scanned. -/
structure TemplateResolver where
  scanner : MarkupScanner
  lookup : TemplateLookup := .companion
  extension : String := defaultTemplateExtension
  workingDirectory : Path

namespace TemplateResolver

/-- The path of the template that a file declares. An extension that no file name can have
names none. -/
def documentPath? (resolver : TemplateResolver) (template : String) (file : Path) : Option Path :=
  match resolver.lookup with
  | .companion =>
      if Path.isExtension resolver.extension then some (file.withExtension resolver.extension)
      else none
  | .declared => some (Path.required resolver.workingDirectory template file)

/-- What a template depends on, from the outcome of reading it. A template that does
not exist depends on nothing. -/
def dependenciesOf (resolver : TemplateResolver) (document : Path) :
    Except ReadError String → Except ExtractError (List String)
  | .ok contents => .ok (resolver.scanner contents document)
  | .error cause =>
      if cause.failure = .notFound then .ok [] else .error (.unreadable document.text cause)

/-- What the template of a directive in a file depends on. Where the template has no path,
the program stops. -/
def dependencies (resolver : TemplateResolver) (files : FileSource) (template : Option String)
    (file : Path) : Except Halt (List String) :=
  match template with
  | none => .ok []
  | some template =>
      match resolver.documentPath? template file with
      | none => .error .stopped
      | some document =>
          (resolver.dependenciesOf document (files document)).mapError .failed

end TemplateResolver

end DirectiveScan
