import DirectiveScan.Proofs.Extract.Candidate
import DirectiveScan.Proofs.Query.Occurrence
import DirectiveScan.Template.Element

namespace DirectiveScan

/-! A file yields all of its components or one error, whatever the order in which the
reads of its templates complete. It yields neither where the program stops at one of its
templates, and this too does not depend on the reads. -/

namespace Extraction

/-- What a file yields when one of its candidates halts. -/
def ofHalt (halt : Halt) : Option Extraction := ofResult (.error halt)

theorem ofHalt_inj {left right : Halt} : ofHalt left = ofHalt right ↔ left = right := by
  cases left <;> cases right <;> simp [ofHalt, ofResult, failed]

theorem ofHalt_eq_some_iff {halt : Halt} {result : Extraction} :
    ofHalt halt = some result ↔ ∃ error, halt = .failed error ∧ result = failed error := by
  cases halt <;> simp [ofHalt, ofResult, eq_comm]

end Extraction

namespace Program

variable {program : Program} {resolver : TemplateResolver} {files : FileSource} {file : Path}

/-! ## The result of a file -/

theorem analyzeUnder_of_yields (schedule : Schedule) {components : List Descriptor}
    (yields : List.Forall₂ (Candidate.Yields resolver files file)
      (Directive.registrations (.program program)) components) :
    program.analyzeUnder resolver files file schedule = some ⟨components, []⟩ := by
  have succeed := (map_outcome_eq_iff program resolver files file schedule components).mpr yields
  rw [analyzeUnder, Attempt.join_of_values succeed, Extraction.ofResult]

theorem analyzeUnder_of_haltsWith (schedule : Schedule)
    (halts : ∃ call ∈ Directive.registrations (.program program), ∃ halt,
      Candidate.HaltsWith resolver files file call halt) :
    ∃ call ∈ Directive.registrations (.program program), ∃ halt,
      Candidate.HaltsWith resolver files file call halt ∧
        program.analyzeUnder resolver files file schedule = Extraction.ofHalt halt := by
  have failsAt := (exists_failsAt_iff program resolver files file schedule).mpr halts
  rcases Attempt.exists_join_eq_error failsAt with ⟨place, round, halt, found, ends⟩
  rcases (failsAt_iff program resolver files file schedule place round halt).mp found
    with ⟨call, isCall, _, haltsWith⟩
  refine ⟨call, List.mem_of_getElem? isCall, halt, haltsWith, ?_⟩
  rw [analyzeUnder, ends, Extraction.ofHalt]

/-- A result holds the components of all registrations or the failure of one of them. -/
theorem yields_or_failsWith {schedule : Schedule} {result : Extraction}
    (analyzed : program.analyzeUnder resolver files file schedule = some result) :
    (List.Forall₂ (Candidate.Yields resolver files file)
        (Directive.registrations (.program program)) result.components ∧ result.errors = []) ∨
      ∃ call ∈ Directive.registrations (.program program), ∃ error,
        Candidate.FailsWith resolver files file call error ∧ result = .failed error := by
  rcases yields_or_haltsWith program resolver files file with ⟨components, yields⟩ | halts
  · rw [analyzeUnder_of_yields schedule yields, Option.some.injEq] at analyzed
    exact .inl (analyzed ▸ ⟨yields, rfl⟩)
  · rcases analyzeUnder_of_haltsWith schedule halts with ⟨call, isCall, halt, haltsWith, ends⟩
    rw [ends, Extraction.ofHalt_eq_some_iff] at analyzed
    rcases analyzed with ⟨error, rfl, isResult⟩
    exact .inr ⟨call, isCall, error, haltsWith, isResult⟩

/-- A result without errors is the result under every schedule. -/
theorem analyzeUnder_of_no_errors {schedule : Schedule} {result : Extraction}
    (analyzed : program.analyzeUnder resolver files file schedule = some result)
    (noErrors : result.errors = []) (other : Schedule) :
    program.analyzeUnder resolver files file other = some result := by
  rcases yields_or_failsWith analyzed with ⟨yields, _⟩ | ⟨_, _, error, _, rfl⟩
  · rw [analyzeUnder_of_yields other yields, ← noErrors]
  · cases noErrors

theorem eq_failed_of_errors {schedule : Schedule} {result : Extraction}
    (analyzed : program.analyzeUnder resolver files file schedule = some result)
    (someErrors : result.errors ≠ []) : ∃ error, result = .failed error := by
  rcases yields_or_failsWith analyzed with ⟨_, noErrors⟩ | ⟨_, _, error, _, isResult⟩
  · exact absurd noErrors someErrors
  · exact ⟨error, isResult⟩

/-- A reported error is the failure of a registration. -/
theorem failsWith_of_mem_errors {schedule : Schedule} {result : Extraction} {error : ExtractError}
    (analyzed : program.analyzeUnder resolver files file schedule = some result)
    (member : error ∈ result.errors) :
    ∃ call ∈ Directive.registrations (.program program),
      Candidate.FailsWith resolver files file call error := by
  rcases yields_or_failsWith analyzed with ⟨_, noErrors⟩ | ⟨call, isCall, other, fails, rfl⟩
  · rw [noErrors] at member
    cases member
  · exact ⟨call, isCall, List.mem_singleton.mp member ▸ fails⟩

/-- Where there is a result, it has errors exactly if a registration fails. -/
theorem errors_ne_nil_iff {schedule : Schedule} {result : Extraction}
    (analyzed : program.analyzeUnder resolver files file schedule = some result) :
    result.errors ≠ [] ↔
      ∃ call ∈ Directive.registrations (.program program), ∃ error,
        Candidate.FailsWith resolver files file call error := by
  constructor
  · intro nonempty
    rcases List.exists_mem_of_ne_nil _ nonempty with ⟨error, member⟩
    rcases failsWith_of_mem_errors analyzed member with ⟨call, isCall, fails⟩
    exact ⟨call, isCall, error, fails⟩
  · intro ⟨call, isCall, error, fails⟩
    have halts : ∃ call ∈ Directive.registrations (.program program), ∃ halt,
        Candidate.HaltsWith resolver files file call halt := ⟨call, isCall, .failed error, fails⟩
    rcases analyzeUnder_of_haltsWith schedule halts with ⟨_, _, halt, _, ends⟩
    rw [ends, Extraction.ofHalt_eq_some_iff] at analyzed
    rcases analyzed with ⟨other, _, rfl⟩
    exact List.cons_ne_nil other []

/-- Registrations are found in preorder. If each of them yields a descriptor, the result
consists of these descriptors in order, whatever the schedule. Otherwise it is one error,
which is the failure of one of the registrations, unless the program stops. It stops under
every schedule or under none: where an extension with a slash is looked for beside the file,
and a registration with a template is reached. -/
theorem components_or_error_unless_stopped (program : Program) (resolver : TemplateResolver)
    (files : FileSource) (file : Path) :
    (∃ nodes, program.Preorder nodes ∧
      Directive.registrations (.program program) = nodes.filter Directive.isRegistration) ∧
    (∀ schedule,
      (∀ call ∈ Directive.registrations (.program program), ∃ descriptor,
        Candidate.Yields resolver files file call descriptor) →
      ∃ components,
        List.Forall₂ (Candidate.Yields resolver files file)
          (Directive.registrations (.program program)) components ∧
        program.analyzeUnder resolver files file schedule = some ⟨components, []⟩) ∧
    (∀ schedule,
      (¬∀ call ∈ Directive.registrations (.program program), ∃ descriptor,
        Candidate.Yields resolver files file call descriptor) →
      program.analyzeUnder resolver files file schedule = none ∨
      ∃ call ∈ Directive.registrations (.program program), ∃ error,
        Candidate.FailsWith resolver files file call error ∧
        program.analyzeUnder resolver files file schedule = some ⟨[], [error]⟩) ∧
    (∀ schedule, program.analyzeUnder resolver files file schedule = none ↔
      resolver.lookup = .companion ∧ '/' ∈ resolver.extension.toList ∧ program.ReachesTemplate) ∧
    (∀ left right components,
      program.analyzeUnder resolver files file left = some ⟨components, []⟩ →
      program.analyzeUnder resolver files file right = some ⟨components, []⟩) := by
  refine ⟨?_, ?_, ?_, analyzeUnder_eq_none_iff, ?_⟩
  · exact ⟨_, program.preorder_walk, Start.findWhere_node _ _⟩
  · intro schedule succeeds
    rcases yields_or_haltsWith program resolver files file with ⟨components, yields⟩ | halts
    · exact ⟨components, yields, analyzeUnder_of_yields schedule yields⟩
    · rcases halts with ⟨call, member, halts⟩
      exact absurd (succeeds call member) ((Candidate.exists_haltsWith_iff call).mp halts)
  · intro schedule notAll
    simp only [not_forall, ← Candidate.exists_haltsWith_iff] at notAll
    rcases notAll with ⟨call, member, halts⟩
    rcases analyzeUnder_of_haltsWith schedule ⟨call, member, halts⟩
      with ⟨halting, isHalting, halt, haltsWith, ends⟩
    cases halt with
    | failed error => exact .inr ⟨halting, isHalting, error, haltsWith, ends⟩
    | stopped => exact .inl ends
  · intro left right components analyzed
    exact analyzeUnder_of_no_errors analyzed rfl right

end Program

/-! ## Two registrations, one of which waits for a template -/

/-- The call `app.directive(...)`. -/
def Directive.registering (arguments : List Expr) : Node :=
  .call 0 (.expr (.node (.member (.node (.identifier "app")) (.name "directive")))) arguments []

/-- A registration with a template. -/
def Directive.templated : Node :=
  registering [.node (.string (some "slow")), .node (.object
    [.property (.name "templateUrl") (.node (.string (some "slow.html")))])]

/-- A registration without a template. -/
def Directive.plain : Node := registering [.node (.string (some "plain"))]

namespace TemplateResolver

/-- Templates beside their files, with some extension. -/
def beside (extension : String) : TemplateResolver where
  scanner := Template.customElementScanner
  lookup := .companion
  extension := extension
  workingDirectory := ⟨"/"⟩

/-- Templates where they are declared. -/
def asDeclared : TemplateResolver where
  scanner := Template.customElementScanner
  lookup := .declared
  workingDirectory := ⟨"/"⟩

end TemplateResolver

/-- Documents that may not be read. -/
def FileSource.denied : FileSource := fun _ => .error ReadFailure.permissionDenied.toError

namespace Program

def templatedAndPlain : Program where
  kind := .script
  items := [Directive.templated, Directive.plain].map Part.statement

/-- A template that is read late gives both components, and one that cannot be read gives
one error. -/
theorem late_template_decides :
    (∃ components,
      List.Forall₂ (Candidate.Yields (.beside "html") (fun _ => .ok "<pet-card></pet-card>")
          ⟨"/app.js"⟩)
        (Directive.registrations (.program templatedAndPlain)) components ∧
      templatedAndPlain.analyzeUnder (.beside "html") (fun _ => .ok "<pet-card></pet-card>")
        ⟨"/app.js"⟩ (fun _ _ => 1) = some ⟨components, []⟩) ∧
    (templatedAndPlain.analyzeUnder (.beside "html") .denied ⟨"/app.js"⟩ (fun _ _ => 1) = none ∨
      ∃ call ∈ Directive.registrations (.program templatedAndPlain), ∃ error,
        Candidate.FailsWith (.beside "html") .denied ⟨"/app.js"⟩ call error ∧
        templatedAndPlain.analyzeUnder (.beside "html") .denied ⟨"/app.js"⟩ (fun _ _ => 1) =
          some ⟨[], [error]⟩) ∧
    templatedAndPlain.analyzeUnder (.beside "html") (fun _ => .ok "<pet-card></pet-card>")
        ⟨"/app.js"⟩ (fun _ _ => 5) =
      templatedAndPlain.analyzeUnder (.beside "html") (fun _ => .ok "<pet-card></pet-card>")
        ⟨"/app.js"⟩ (fun _ _ => 1) := by
  have found : Directive.registrations (.program templatedAndPlain) =
      [Directive.templated, Directive.plain] := rfl
  have parts (files : FileSource) :=
    components_or_error_unless_stopped templatedAndPlain (.beside "html") files ⟨"/app.js"⟩
  have yields : ∃ components,
      List.Forall₂ (Candidate.Yields (.beside "html") (fun _ => .ok "<pet-card></pet-card>")
          ⟨"/app.js"⟩)
        (Directive.registrations (.program templatedAndPlain)) components ∧
      templatedAndPlain.analyzeUnder (.beside "html") (fun _ => .ok "<pet-card></pet-card>")
        ⟨"/app.js"⟩ (fun _ _ => 1) = some ⟨components, []⟩ := by
    apply (parts _).2.1
    rw [found, List.forall_mem_cons, List.forall_mem_singleton]
    constructor
    · exact ⟨⟨"/app.js", "slow", none, none, some "slow.html", ["pet-card"]⟩,
        (Candidate.extract_eq_ok_iff ..).mp (by decide +kernel)⟩
    · exact ⟨⟨"/app.js", "plain", none, none, none, []⟩,
        (Candidate.extract_eq_ok_iff ..).mp rfl⟩
  refine ⟨yields, ?_, ?_⟩
  · apply (parts _).2.2.1
    intro succeeds
    have denied : ∃ halt, Candidate.HaltsWith (.beside "html") .denied ⟨"/app.js"⟩
        Directive.templated halt := by
      refine ⟨.failed (.unreadable "/app.html" ReadFailure.permissionDenied.toError), ?_⟩
      exact (Candidate.extract_eq_error_iff ..).mp rfl
    rw [found] at succeeds
    exact (Candidate.exists_haltsWith_iff _).mp denied (succeeds _ List.mem_cons_self)
  · rcases yields with ⟨components, _, analyzed⟩
    rw [(parts _).2.2.2.2 _ (fun _ _ => 5) components analyzed, analyzed]

/-- An extension with a slash leaves neither components nor an error, whatever is read. -/
theorem slash_leaves_no_result :
    ¬∃ files schedule result,
      templatedAndPlain.analyzeUnder (.beside "x/y") files ⟨"/app.js"⟩ schedule = some result := by
  rintro ⟨files, schedule, result, analyzed⟩
  have reaches : templatedAndPlain.ReachesTemplate :=
    ⟨[], ⟨"slow", none, none, some "slow.html"⟩, [.ok ⟨"plain", none, none, none⟩], rfl,
      by simp, by simp⟩
  rw [analyzeUnder_eq_none_iff schedule |>.mpr ⟨rfl, by decide, reaches⟩] at analyzed
  cases analyzed

end Program

end DirectiveScan
