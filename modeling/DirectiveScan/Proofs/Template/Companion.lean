import DirectiveScan.Project.Scan
import DirectiveScan.Proofs.Extract.Candidate
import DirectiveScan.Proofs.Path.Extension

namespace DirectiveScan

/-! Templates beside their files.

The extension of a valid configuration is not empty, so the template of a file stands in the
directory of the file, under the stem of its name. What validity does not ask for is that the
extension is one that a file name can have: the program stops at a template whose name would
hold a slash. -/

theorem TemplateResolver.eq_withExtension_of_documentPath? {resolver : TemplateResolver}
    (companion : resolver.lookup = .companion) {template : String} {file document : Path}
    (isDocument : resolver.documentPath? template file = some document) :
    Path.isExtension resolver.extension = true ∧
      document = file.withExtension resolver.extension := by
  rw [documentPath?, companion] at isDocument
  cases usable : Path.isExtension resolver.extension with
  | false => simp [usable] at isDocument
  | true => simpa [usable] using isDocument.symm

/-! ## Valid configurations -/

theorem Config.extension_ne_of_valid {config : Config} (valid : config.invalid? = none) :
    config.extension ≠ "" := by
  intro empty
  rw [invalid?, Option.or_eq_none_iff, Option.or_eq_none_iff] at valid
  have noError := valid.2.2
  rw [invalidExtension?, empty] at noError
  cases noError

namespace Project

/-- Under a valid configuration, the template beside a file stands in the directory of the file
and is called after its stem; only behind a pointed name the path leads to the parent. It can
be named unless the extension holds a slash. Otherwise the program stops wherever a
registration with a template is reached, whatever is read and whenever. -/
theorem template_beside_file (project : Project) (system : FileSystem)
    (valid : project.config.invalid? = none)
    (companion : project.config.templateLookup = .companion) (template : String)
    {file : Path} {name : String} (isNamed : file.fileName? = some name) :
    ((project.resolver system).documentPath? template file = none ↔
      '/' ∈ project.config.extension.toList) ∧
    (∀ (program : Program) files schedule,
      program.analyzeUnder (project.resolver system) files file schedule = none ↔
        '/' ∈ project.config.extension.toList ∧ program.ReachesTemplate) ∧
    ∀ document, (project.resolver system).documentPath? template file = some document →
      document.parent? = file.parent? ∧
      ∃ stem, Path.IsStem name stem ∧
        (Path.IsPointed file stem name → document.components.getLast? = some .parent) ∧
        (¬Path.IsPointed file stem name →
          document.fileName? = some (stem ++ "." ++ project.config.extension)) := by
  have isCompanion : (project.resolver system).lookup = .companion := companion
  refine ⟨?_, fun program files schedule => ?_, fun document isDocument => ?_⟩
  · rw [TemplateResolver.documentPath?_eq_none_iff]
    exact and_iff_right isCompanion
  · rw [Program.analyzeUnder_eq_none_iff]
    exact and_iff_right isCompanion
  · rcases TemplateResolver.eq_withExtension_of_documentPath? isCompanion isDocument
      with ⟨usable, rfl⟩
    rcases Path.withExtension_of_fileName? isNamed (Config.extension_ne_of_valid valid) usable
      with ⟨stem, isStem, sameParent, pointed, plain⟩
    exact ⟨sameParent, stem, isStem, pointed, plain⟩

/-- A project without files whose templates have some extension. -/
def withTemplates (extension : String) : Project where
  config := { templateExtension := extension }
  configSource := none
  root := ⟨"/app"⟩
  files := []
  skipped := 0

/-- White space around an extension and a point in the stem do not count. -/
theorem directive_template_beside_directive :
    let project := withTemplates " tpl.html "
    let file : Path := ⟨"/app//cat.directive.js"⟩
    project.config.invalid? = none ∧ project.config.templateLookup = .companion ∧
    file.fileName? = some "cat.directive.js" ∧
    ∃ document, (project.resolver ⟨.directory [], ⟨"/"⟩⟩).documentPath? "x.html" file =
      some document ∧ document.parent? = some ⟨"/app"⟩ ∧
      ∃ stem, Path.IsStem "cat.directive.js" stem ∧
        document.fileName? = some (stem ++ "." ++ "tpl.html") := by
  intro project file
  have valid : project.config.invalid? = none := by decide
  have isNamed : file.fileName? = some "cat.directive.js" := by decide
  have isExtension : project.config.extension = "tpl.html" := by decide
  refine ⟨valid, rfl, isNamed, ⟨"/app//cat.directive.tpl.html"⟩, by decide, ?_⟩
  rcases template_beside_file project ⟨.directory [], ⟨"/"⟩⟩ valid rfl "x.html" isNamed
    with ⟨_, _, beside⟩
  rw [isExtension] at beside
  rcases beside ⟨"/app//cat.directive.tpl.html"⟩ (by decide) with ⟨parent, stem, isStem, _, plain⟩
  have notPointed : ¬Path.IsPointed file stem "cat.directive.js" := by
    rintro ⟨rfl, _⟩
    rcases isStem with ⟨old, _, _, isName⟩ | ⟨isName, _⟩
    · have starts := congrArg (·.toList.head?) isName
      simp at starts
    · exact absurd isName (by decide)
  exact ⟨parent.trans (by decide), stem, isStem, plain notPointed⟩

/-- A valid extension with a slash stops the program, and a file that is called by two points
and an extension has its template at the parent directory. -/
theorem valid_extension_without_sibling :
    ((withTemplates "x/y").config.invalid? = none ∧
      ((withTemplates "x/y").resolver ⟨.directory [], ⟨"/"⟩⟩).documentPath? "x.html"
        ⟨"/app/cat.js"⟩ = none) ∧
    ((withTemplates "html").config.invalid? = none ∧
      ((withTemplates "html").resolver ⟨.directory [], ⟨"/"⟩⟩).documentPath? "x.html"
        ⟨"/app/..js"⟩ = some ⟨"/app/.."⟩) := by
  decide

end Project

end DirectiveScan
