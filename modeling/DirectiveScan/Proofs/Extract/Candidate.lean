import DirectiveScan.Extract.Analysis
import DirectiveScan.Proofs.Directive.InPlace
import DirectiveScan.Proofs.Extract.Attempt
import Mathlib.Data.List.Forall2

namespace DirectiveScan

/-! What becomes of a registration.

A registration yields a descriptor, fails, or stops the program. It stops the program if its
template has no path, which is so for every template of a file or for none. -/

theorem TemplateResolver.documentPath?_eq_none_iff (resolver : TemplateResolver)
    (template : String) (file : Path) :
    resolver.documentPath? template file = none ↔
      resolver.lookup = .companion ∧ '/' ∈ resolver.extension.toList := by
  rw [documentPath?]
  cases resolver.lookup with
  | companion => simp [Path.isExtension]
  | declared => simp

namespace Candidate

section

variable (resolver : TemplateResolver) (files : FileSource) (file : Path)

/-- A registration yields a descriptor: it can be read, it is known what its own template
depends on, and the descriptor carries both. -/
def Yields (call : Node) (descriptor : Descriptor) : Prop :=
  ∃ declaration dependencies,
    Directive.read call = .ok declaration ∧
    resolver.dependencies files declaration.templatePath file = .ok dependencies ∧
    descriptor =
      { path := (Path.absolute resolver.workingDirectory file).text
        name := declaration.name
        module := declaration.module
        scope := declaration.scope
        templatePath := declaration.templatePath
        dependencies := dependencies }

/-- A registration fails: it cannot be read, or its template cannot. -/
def FailsWith (call : Node) (error : ExtractError) : Prop :=
  Directive.read call = .error error ∨
    ∃ declaration, Directive.read call = .ok declaration ∧
      resolver.dependencies files declaration.templatePath file = .error (.failed error)

/-- A registration stops the program: it can be read, and its template has no path. -/
def Stops (call : Node) : Prop :=
  ∃ declaration url, Directive.read call = .ok declaration ∧
    declaration.templatePath = some url ∧ resolver.documentPath? url file = none

/-- A registration yields nothing, for the given reason. -/
def HaltsWith (call : Node) : Halt → Prop
  | .failed error => FailsWith resolver files file call error
  | .stopped => Stops resolver file call

end

variable {resolver : TemplateResolver} {files : FileSource} {file : Path}

/-! ## One registration -/

theorem dependencies_eq_stopped_iff (template : Option String) :
    resolver.dependencies files template file = .error .stopped ↔
      ∃ url, template = some url ∧ resolver.documentPath? url file = none := by
  cases template with
  | none => simp [TemplateResolver.dependencies]
  | some url =>
      cases found : resolver.documentPath? url file with
      | none => simp [TemplateResolver.dependencies, found]
      | some document =>
          simp only [TemplateResolver.dependencies, found]
          cases resolver.dependenciesOf document (files document) <;> simp [Except.mapError, found]

theorem extract_eq_ok_iff (call : Node) (descriptor : Descriptor) :
    extract resolver files file (Directive.read call) = .ok descriptor ↔
      Yields resolver files file call descriptor := by
  cases read : Directive.read call with
  | error error => simp [extract, Yields, read]
  | ok declaration =>
      cases found : resolver.dependencies files declaration.templatePath file with
      | error halt => simp [extract, Yields, read, found, Except.map]
      | ok dependencies =>
          simp [extract, Yields, read, found, Except.map, describe, eq_comm]

theorem extract_eq_error_iff (call : Node) (halt : Halt) :
    extract resolver files file (Directive.read call) = .error halt ↔
      HaltsWith resolver files file call halt := by
  cases halt with
  | failed error =>
      cases read : Directive.read call with
      | error found => simp [extract, HaltsWith, FailsWith, read]
      | ok declaration =>
          cases found : resolver.dependencies files declaration.templatePath file <;>
            simp [extract, HaltsWith, FailsWith, read, found, Except.map]
  | stopped =>
      cases read : Directive.read call with
      | error found => simp [extract, HaltsWith, Stops, read]
      | ok declaration =>
          have stopped : resolver.dependencies files declaration.templatePath file =
              .error .stopped ↔ _ := dependencies_eq_stopped_iff declaration.templatePath
          cases found : resolver.dependencies files declaration.templatePath file <;>
            simp_all [extract, HaltsWith, Stops, Except.map]

/-- A registration halts exactly when it yields no descriptor. -/
theorem exists_haltsWith_iff (call : Node) :
    (∃ halt, HaltsWith resolver files file call halt) ↔
      ¬∃ descriptor, Yields resolver files file call descriptor := by
  simp only [← extract_eq_ok_iff, ← extract_eq_error_iff]
  cases extract resolver files file (Directive.read call) with
  | error halt => simp
  | ok descriptor => simp

end Candidate

namespace Program

variable (program : Program) (resolver : TemplateResolver) (files : FileSource) (file : Path)

/-! ## All registrations -/

/-- The candidate at a place is that of the registration at the place. -/
theorem candidates_getElem? (schedule : Schedule) (place : Nat) :
    (program.candidates resolver files file schedule)[place]? =
      (Directive.registrations (.program program))[place]?.map fun call =>
        .ofDeclaration resolver files file (schedule place) (Directive.read call) := by
  simp [candidates, Directive.readAll_eq, Function.comp_def]

/-- The outcomes of the candidates do not depend on the schedule. -/
theorem map_outcome_candidates (schedule : Schedule) :
    (program.candidates resolver files file schedule).map Attempt.outcome =
      (Directive.registrations (.program program)).map fun call =>
        Candidate.extract resolver files file (Directive.read call) := by
  apply List.ext_getElem?
  intro place
  rw [List.getElem?_map, candidates_getElem?, List.getElem?_map, Option.map_map]
  rfl

theorem map_outcome_eq_iff (schedule : Schedule) (components : List Descriptor) :
    (program.candidates resolver files file schedule).map Attempt.outcome =
        components.map .ok ↔
      List.Forall₂ (Candidate.Yields resolver files file)
        (Directive.registrations (.program program)) components := by
  rw [map_outcome_candidates, ← List.forall₂_eq_eq_eq, List.forall₂_map_left_iff,
    List.forall₂_map_right_iff]
  simp only [Candidate.extract_eq_ok_iff]

/-- The candidate at a place halts exactly when the registration at the place does. -/
theorem failsAt_iff (schedule : Schedule) (place round : Nat) (halt : Halt) :
    Attempt.FailsAt (program.candidates resolver files file schedule) place round halt ↔
      ∃ call, (Directive.registrations (.program program))[place]? = some call ∧
        Candidate.knownAt resolver file (schedule place) (Directive.read call) = round ∧
        Candidate.HaltsWith resolver files file call halt := by
  simp only [Attempt.FailsAt, candidates_getElem?, Option.map_eq_some_iff,
    Candidate.ofDeclaration, Attempt.mk.injEq, Candidate.extract_eq_error_iff]

theorem exists_failsAt_iff (schedule : Schedule) :
    (∃ place round halt,
        Attempt.FailsAt (program.candidates resolver files file schedule) place round halt) ↔
      ∃ call ∈ Directive.registrations (.program program), ∃ halt,
        Candidate.HaltsWith resolver files file call halt := by
  simp only [failsAt_iff]
  constructor
  · intro ⟨place, round, halt, call, found, _, halts⟩
    exact ⟨call, List.mem_of_getElem? found, halt, halts⟩
  · intro ⟨call, member, halt, halts⟩
    rcases List.getElem?_of_mem member with ⟨place, found⟩
    exact ⟨place, _, halt, call, found, rfl, halts⟩

/-- Either every registration of a program yields a descriptor, or one of them halts. -/
theorem yields_or_haltsWith :
    (∃ components, List.Forall₂ (Candidate.Yields resolver files file)
        (Directive.registrations (.program program)) components) ∨
      ∃ call ∈ Directive.registrations (.program program), ∃ halt,
        Candidate.HaltsWith resolver files file call halt := by
  rw [← exists_failsAt_iff program resolver files file fun _ _ => 0]
  simp only [← map_outcome_eq_iff program resolver files file fun _ _ => 0]
  exact Attempt.values_or_failure _

/-! ## Where the program stops -/

/-- Whether a registration with a template is reached before one that fails on its own. -/
def ReachesTemplate : Prop :=
  ∃ front declaration rest,
    Directive.readAll (.program program) = front ++ .ok declaration :: rest ∧
      (∀ one ∈ front, one.isOk = true) ∧ declaration.templatePath ≠ none

variable {program resolver files file}

/-- Where no template has a path, the first registration that fails on its own or has a
template decides. -/
theorem mapM_extract_eq_stopped_iff (noPath : ∀ url, resolver.documentPath? url file = none)
    (declarations : List (Except ExtractError Declaration)) :
    declarations.mapM (Candidate.extract resolver files file) = .error .stopped ↔
      ∃ front declaration rest, declarations = front ++ .ok declaration :: rest ∧
        (∀ one ∈ front, one.isOk = true) ∧ declaration.templatePath ≠ none := by
  induction declarations with
  | nil => simp [pure, Except.pure]
  | cons head tail induction =>
      cases head with
      | error error =>
          have fails : Candidate.extract resolver files file (.error error) =
              .error (.failed error) := rfl
          rw [mapM_cons_of_error _ fails]
          constructor
          · intro ends
            cases ends
          · rintro ⟨_ | ⟨one, front⟩, declaration, rest, isAll, before, _⟩
            · cases isAll
            · cases isAll
              cases before _ List.mem_cons_self
      | ok declaration =>
          cases isTemplate : declaration.templatePath with
          | some url =>
              have halts : Candidate.extract resolver files file (.ok declaration) =
                  .error .stopped := by
                simp [Candidate.extract, TemplateResolver.dependencies, isTemplate, noPath,
                  Except.map]
              rw [mapM_cons_of_error _ halts]
              exact ⟨fun _ => ⟨[], declaration, tail, rfl, by simp, by simp [isTemplate]⟩,
                fun _ => rfl⟩
          | none =>
              have passes : Candidate.extract resolver files file (.ok declaration) =
                  .ok (Candidate.describe declaration
                    (Path.absolute resolver.workingDirectory file) []) := by
                simp [Candidate.extract, TemplateResolver.dependencies, isTemplate, Except.map]
              rw [mapM_cons_of_ok _ passes, map_eq_error_iff, induction]
              constructor
              · rintro ⟨front, found, rest, rfl, before, declares⟩
                exact ⟨.ok declaration :: front, found, rest, rfl,
                  List.forall_mem_cons.mpr ⟨rfl, before⟩, declares⟩
              · rintro ⟨_ | ⟨one, front⟩, found, rest, isAll, before, declares⟩
                · cases isAll
                  exact absurd isTemplate declares
                · cases isAll
                  exact ⟨front, found, rest, rfl,
                    fun other member => before other (List.mem_cons_of_mem _ member), declares⟩

/-- Where no template has a path, nothing is waited for. -/
theorem completesAt_of_noPath (noPath : ∀ url, resolver.documentPath? url file = none)
    (schedule : Schedule) :
    ∀ candidate ∈ program.candidates resolver files file schedule, candidate.completesAt = 0 := by
  intro candidate member
  rcases List.getElem?_of_mem member with ⟨place, found⟩
  rw [candidates_getElem?, Option.map_eq_some_iff] at found
  rcases found with ⟨call, _, rfl⟩
  rw [Candidate.ofDeclaration, Candidate.knownAt.eq_def]
  cases Directive.read call with
  | error error => rfl
  | ok declaration => cases isTemplate : declaration.templatePath <;> simp [isTemplate, noPath]

/-- The program stops exactly where the template of a registration that is reached has no
path. Neither the documents nor the order of their reads count. -/
theorem analyzeUnder_eq_none_iff (schedule : Schedule) :
    program.analyzeUnder resolver files file schedule = none ↔
      resolver.lookup = .companion ∧ '/' ∈ resolver.extension.toList ∧
        program.ReachesTemplate := by
  have stops_iff : program.analyzeUnder resolver files file schedule = none ↔
      Attempt.join (program.candidates resolver files file schedule) = .error .stopped := by
    rw [analyzeUnder]
    rcases Attempt.join (program.candidates resolver files file schedule) with
      (error | _) | components <;> simp [Extraction.ofResult]
  have noPath_iff (url : String) := resolver.documentPath?_eq_none_iff url file
  rw [stops_iff]
  by_cases noPath : resolver.lookup = .companion ∧ '/' ∈ resolver.extension.toList
  · have noPaths (url : String) := (noPath_iff url).mpr noPath
    rw [Attempt.join_of_atOnce (completesAt_of_noPath noPaths schedule)]
    have outcomes := congrArg (List.mapM (m := Except Halt) id)
      (map_outcome_candidates program resolver files file schedule)
    rw [List.mapM_map, List.mapM_map] at outcomes
    have read : (Directive.readAll (.program program)).mapM
        (Candidate.extract resolver files file) = .error .stopped ↔ program.ReachesTemplate :=
      mapM_extract_eq_stopped_iff noPaths _
    rw [Directive.readAll_eq, List.mapM_map] at read
    simp only [noPath, true_and]
    exact (Eq.congr_left outcomes).trans read
  · refine ⟨fun stops => ?_, fun ⟨companion, slash, _⟩ => absurd ⟨companion, slash⟩ noPath⟩
    rcases Attempt.exists_failsAt_of_join stops with ⟨place, round, found⟩
    rcases (failsAt_iff ..).mp found with ⟨_, _, _, _, url, _, _, isNone⟩
    exact absurd ((noPath_iff url).mp isNone) noPath

end Program

end DirectiveScan
