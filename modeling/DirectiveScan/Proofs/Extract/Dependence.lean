import DirectiveScan.Proofs.Extract.FailureCondition

namespace DirectiveScan

/-! What the result of a file depends on.

Of all documents only those count that a registration of the file declares as its
template. Two sources that read these alike give the same result if the reads complete at
the same time. When they complete only matters for which of several failures is reported.
Where nothing is declared, the source does not matter at all. With lookup beside the file
there is one document for all registrations, whatever they declare. -/

/-! ## Errors without words -/

/-- Two reads give the same contents, or fail for the same cause, in whatever words. -/
inductive ReadsAlike : Except ReadError String → Except ReadError String → Prop
  | contents (text : String) : ReadsAlike (.ok text) (.ok text)
  | failure {left right : ReadError} (same : left.failure = right.failure) :
      ReadsAlike (.error left) (.error right)

/-- An error without the words in which a failed read is described. -/
def ExtractError.withoutWords : ExtractError → ExtractError
  | .unreadable path cause => .unreadable path ⟨cause.failure, ""⟩
  | other => other

/-- A halt with its error changed. -/
def Halt.mapError (change : ExtractError → ExtractError) : Halt → Halt
  | failed error => failed (change error)
  | stopped => stopped

namespace Extraction

def mapErrors (change : ExtractError → ExtractError) (extraction : Extraction) : Extraction :=
  ⟨extraction.components, extraction.errors.map change⟩

/-- Two results differ at most in the words for a failed read. -/
def SameButWords (left right : Extraction) : Prop :=
  left.mapErrors .withoutWords = right.mapErrors .withoutWords

theorem mapErrors_id (extraction : Extraction) : extraction.mapErrors id = extraction := by
  rw [mapErrors, List.map_id]

theorem ofResult_mapError (change : ExtractError → ExtractError)
    (result : Except Halt (List Descriptor)) :
    ofResult (result.mapError (Halt.mapError change)) =
      (ofResult result).map (mapErrors change) := by
  rcases result with (error | _) | components <;> rfl

theorem SameButWords.components_eq {left right : Extraction} (same : left.SameButWords right) :
    left.components = right.components := by
  have equal : left.mapErrors .withoutWords = right.mapErrors .withoutWords := same
  exact congrArg (·.components) equal

theorem SameButWords.errors_eq_nil_iff {left right : Extraction}
    (same : left.SameButWords right) : left.errors = [] ↔ right.errors = [] := by
  have equal : left.mapErrors .withoutWords = right.mapErrors .withoutWords := same
  have empty : (left.mapErrors .withoutWords).errors = [] ↔
      (right.mapErrors .withoutWords).errors = [] := by rw [equal]
  simpa [mapErrors] using empty

end Extraction

namespace Attempt

variable {ε δ α : Type}

def mapError (change : ε → δ) (attempt : Attempt ε α) : Attempt δ α :=
  ⟨attempt.completesAt, attempt.outcome.mapError change⟩

theorem failsAt_mapError_iff (change : ε → δ) (attempts : List (Attempt ε α)) (place round : Nat)
    (error : δ) :
    FailsAt (attempts.map (mapError change)) place round error ↔
      ∃ original, FailsAt attempts place round original ∧ change original = error := by
  rw [FailsAt, List.getElem?_map, Option.map_eq_some_iff]
  constructor
  · rintro ⟨⟨completesAt, outcome⟩, found, changed⟩
    cases outcome with
    | ok value => cases changed
    | error original =>
        cases changed
        exact ⟨original, found, rfl⟩
  · rintro ⟨original, fails, rfl⟩
    exact ⟨_, fails, rfl⟩

theorem EarliestFailure.mapError {attempts : List (Attempt ε α)} {place : Nat} {error : ε}
    (change : ε → δ) (failure : EarliestFailure attempts place error) :
    EarliestFailure (attempts.map (Attempt.mapError change)) place (change error) := by
  rcases failure with ⟨round, fails, earliest⟩
  refine ⟨round, (failsAt_mapError_iff ..).mpr ⟨error, fails, rfl⟩, ?_⟩
  intro otherPlace otherRound otherError otherFails
  rcases (failsAt_mapError_iff ..).mp otherFails with ⟨original, originalFails, _⟩
  exact earliest otherPlace otherRound original originalFails

theorem FirstFailure.mapError {attempts : List (Attempt ε α)} {place : Nat} {error : ε}
    (change : ε → δ) (failure : FirstFailure attempts place error) :
    FirstFailure (attempts.map (Attempt.mapError change)) place (change error) := by
  rcases failure with ⟨⟨round, fails⟩, first⟩
  refine ⟨⟨round, (failsAt_mapError_iff ..).mpr ⟨error, fails, rfl⟩⟩, ?_⟩
  intro otherPlace otherRound otherError otherFails
  rcases (failsAt_mapError_iff ..).mp otherFails with ⟨original, originalFails, _⟩
  exact first otherPlace otherRound original originalFails

/-- A wait does not look at errors. -/
theorem join_map_mapError (change : ε → δ) (attempts : List (Attempt ε α)) :
    join (attempts.map (mapError change)) = (join attempts).mapError change := by
  rcases values_or_failure attempts with ⟨values, succeed⟩ | fails
  · have changed : (attempts.map (mapError change)).map Attempt.outcome = values.map .ok := by
      calc (attempts.map (mapError change)).map Attempt.outcome
          = (attempts.map Attempt.outcome).map (Except.mapError change) := by
            rw [List.map_map, List.map_map]
            rfl
        _ = (values.map Except.ok).map (Except.mapError change) := by rw [succeed]
        _ = values.map Except.ok := by
            rw [List.map_map]
            rfl
    rw [join_of_values succeed, join_of_values changed]
    rfl
  · rcases exists_earliestFailure fails with ⟨earliestPlace, earliest, earliestFailure⟩
    rcases exists_firstFailure fails with ⟨firstPlace, first, firstFailure⟩
    rw [join_of_failures earliestFailure firstFailure,
      join_of_failures (earliestFailure.mapError change) (firstFailure.mapError change),
      List.length_map, Except.mapError, apply_ite change]

end Attempt

/-! ## The documents of a registration -/

theorem Directive.declaresTemplate_of_read {call : Node} {declaration : Declaration} {url : String}
    (isRead : read call = .ok declaration) (isTemplate : declaration.templatePath = some url) :
    DeclaresTemplate call url := by
  rw [← templatePath_eq_some_iff, ← isTemplate]
  cases isName : name call with
  | error error => rw [read, isName] at isRead; cases isRead
  | ok word =>
      cases isScope : scope call with
      | error error => rw [read, isName, isScope] at isRead; cases isRead
      | ok found =>
          rw [read, isName, isScope] at isRead
          cases isRead
          rfl

theorem mapError_map {ε δ α β : Type} (change : ε → δ) (transform : α → β)
    (result : Except ε α) :
    (result.map transform).mapError change = (result.mapError change).map transform := by
  cases result <;> rfl

theorem mapError_mapError {ε δ η α : Type} (change : ε → δ) (further : δ → η)
    (result : Except ε α) :
    (result.mapError change).mapError further = result.mapError (further ∘ change) := by
  cases result <;> rfl

namespace Candidate

open Directive (DeclaresTemplate)

/-- Only the outcome of reading the declared template counts. -/
theorem mapError_extract_congr {resolver : TemplateResolver} {left right : FileSource}
    {file : Path} {call : Node} (change : ExtractError → ExtractError)
    (alike : ∀ url document, DeclaresTemplate call url →
      resolver.documentPath? url file = some document →
      (resolver.dependenciesOf document (left document)).mapError change =
        (resolver.dependenciesOf document (right document)).mapError change) :
    (extract resolver left file (Directive.read call)).mapError (Halt.mapError change) =
      (extract resolver right file (Directive.read call)).mapError (Halt.mapError change) := by
  cases isRead : Directive.read call with
  | error error => rfl
  | ok declaration =>
      rw [extract, extract, mapError_map, mapError_map]
      cases isTemplate : declaration.templatePath with
      | none => rfl
      | some url =>
          cases isDocument : resolver.documentPath? url file with
          | none => simp only [TemplateResolver.dependencies, isDocument]
          | some document =>
              have declares := Directive.declaresTemplate_of_read isRead isTemplate
              have same :=
                congrArg (Except.mapError Halt.failed) (alike url document declares isDocument)
              rw [mapError_mapError, mapError_mapError] at same
              simp only [TemplateResolver.dependencies, isDocument, mapError_mapError]
              exact congrArg _ same

/-- Where no template is declared, neither the documents nor their order count. -/
theorem ofDeclaration_of_no_template {resolver : TemplateResolver} {file : Path} {call : Node}
    (noTemplate : ∀ url, ¬DeclaresTemplate call url) (left right : FileSource)
    (leftReadAt rightReadAt : Path → Nat) :
    ofDeclaration resolver left file leftReadAt (Directive.read call) =
      ofDeclaration resolver right file rightReadAt (Directive.read call) := by
  cases isRead : Directive.read call with
  | error error => rfl
  | ok declaration =>
      cases isTemplate : declaration.templatePath with
      | none =>
          simp only [ofDeclaration, knownAt, extract, isTemplate, TemplateResolver.dependencies,
            Option.bind_none]
      | some url =>
          exact absurd (Directive.declaresTemplate_of_read isRead isTemplate) (noTemplate url)

/-- Of a resolver only its scanner and the declared documents count, and which file it is. -/
theorem ofDeclaration_congr {left right : TemplateResolver} {file : Path} {call : Node}
    (sameScanner : left.scanner = right.scanner)
    (sameFile : Path.absolute left.workingDirectory file =
      Path.absolute right.workingDirectory file)
    (sameDocuments : ∀ url, DeclaresTemplate call url →
      left.documentPath? url file = right.documentPath? url file)
    (files : FileSource) (readAt : Path → Nat) :
    ofDeclaration left files file readAt (Directive.read call) =
      ofDeclaration right files file readAt (Directive.read call) := by
  cases isRead : Directive.read call with
  | error error => rfl
  | ok declaration =>
      cases isTemplate : declaration.templatePath with
      | none =>
          simp only [ofDeclaration, knownAt, extract, isTemplate, sameFile,
            TemplateResolver.dependencies, Option.bind_none]
      | some url =>
          have same := sameDocuments url (Directive.declaresTemplate_of_read isRead isTemplate)
          have sameScan : left.dependenciesOf = right.dependenciesOf := by
            funext document outcome
            cases outcome <;> simp only [TemplateResolver.dependenciesOf, sameScanner]
          simp only [ofDeclaration, knownAt, extract, isTemplate, sameFile, same,
            TemplateResolver.dependencies, Option.bind_some, sameScan]

end Candidate

namespace TemplateResolver

theorem mapError_dependenciesOf (resolver : TemplateResolver) {left right : Except ReadError String}
    (document : Path) (alike : ReadsAlike left right) :
    (resolver.dependenciesOf document left).mapError ExtractError.withoutWords =
      (resolver.dependenciesOf document right).mapError ExtractError.withoutWords := by
  cases alike with
  | contents text => rfl
  | @failure left right same =>
      by_cases missing : right.failure = .notFound
      · simp [dependenciesOf, same, missing]
      · simp [dependenciesOf, same, missing, Except.mapError, ExtractError.withoutWords]

/-- Memory describes a failure by the path that is read. -/
theorem text_of_memory_failure {files : MemoryFiles} {document : Path} {cause : ReadError}
    (fails : files.source document = .error cause) (present : cause.failure ≠ .notFound) :
    cause.text = document.text := by
  rw [MemoryFiles.source] at fails
  cases found : files.find? document with
  | none =>
      rw [found] at fails
      cases fails
      exact absurd rfl present
  | some file =>
      rw [found] at fails
      cases content : file.content with
      | text text => simp [content, MemoryFiles.outcomeOf] at fails
      | failing failure =>
          simp only [content, MemoryFiles.outcomeOf, Except.error.injEq] at fails
          rw [← fails]

theorem dependenciesOf_memory (resolver : TemplateResolver) {left right : MemoryFiles}
    (document : Path) (alike : ReadsAlike (left.source document) (right.source document)) :
    resolver.dependenciesOf document (left.source document) =
      resolver.dependenciesOf document (right.source document) := by
  generalize isLeft : left.source document = leftOutcome at alike
  generalize isRight : right.source document = rightOutcome at alike
  cases alike with
  | contents text => rfl
  | @failure leftCause rightCause same =>
      by_cases missing : rightCause.failure = .notFound
      · simp [dependenciesOf, same, missing]
      · have leftText := text_of_memory_failure isLeft (by rwa [same])
        have rightText := text_of_memory_failure isRight missing
        have equal : leftCause = rightCause := by
          cases leftCause
          cases rightCause
          simp_all
        rw [equal]

/-- Beside a file there is one document, whatever is declared. -/
theorem dependencies_companion {resolver : TemplateResolver}
    (companion : resolver.lookup = .companion) (files : FileSource) (file : Path)
    (url other : String) :
    resolver.dependencies files (some url) file =
      resolver.dependencies files (some other) file := by
  simp only [dependencies, documentPath?, companion]

end TemplateResolver

theorem MemoryFiles.schedule_of_undelayed {files : MemoryFiles}
    (undelayed : ∀ memory ∈ files, memory.delay = 0) : files.schedule = fun _ _ => 0 := by
  funext place document
  rw [schedule, delayAt]
  cases found : files.find? document with
  | none => rfl
  | some memory =>
      exact undelayed memory (List.mem_reverse.mp (List.mem_of_find?_eq_some found))

namespace Program

variable (program : Program) (resolver : TemplateResolver) (file : Path)

/-- A registration of a program declares a template. -/
def Declares (url : String) : Prop :=
  ∃ call, program.Holds call ∧ Directive.isRegistration call = true ∧
    Directive.DeclaresTemplate call url

/-- Two sources read every template alike that a program declares. -/
def ReadAlike (left right : FileSource) : Prop :=
  ∀ url document, program.Declares url → resolver.documentPath? url file = some document →
    ReadsAlike (left document) (right document)

variable {program resolver file}

theorem declares_of_mem {call : Node} {url : String}
    (member : call ∈ Directive.registrations (.program program))
    (declares : Directive.DeclaresTemplate call url) : program.Declares url := by
  rcases (Directive.mem_registrations_iff program call).mp member with ⟨holds, registers⟩
  exact ⟨call, holds, registers, declares⟩

theorem analyzeUnder_of_same_candidates {leftResolver rightResolver : TemplateResolver}
    {left right : FileSource} {leftSchedule rightSchedule : Schedule}
    (same : ∀ place, ∀ call ∈ Directive.registrations (.program program),
      Candidate.ofDeclaration leftResolver left file (leftSchedule place) (Directive.read call) =
        Candidate.ofDeclaration rightResolver right file (rightSchedule place)
          (Directive.read call)) :
    program.analyzeUnder leftResolver left file leftSchedule =
      program.analyzeUnder rightResolver right file rightSchedule := by
  have candidates : program.candidates leftResolver left file leftSchedule =
      program.candidates rightResolver right file rightSchedule := by
    apply List.ext_getElem?
    intro place
    rw [candidates_getElem?, candidates_getElem?]
    cases found : (Directive.registrations (.program program))[place]? with
    | none => rfl
    | some call => exact congrArg some (same place call (List.mem_of_getElem? found))
  rw [analyzeUnder, analyzeUnder, candidates]

theorem mapErrors_analyzeUnder_congr {left right : FileSource}
    (change : ExtractError → ExtractError)
    (alike : ∀ url document, program.Declares url →
      resolver.documentPath? url file = some document →
      (resolver.dependenciesOf document (left document)).mapError change =
        (resolver.dependenciesOf document (right document)).mapError change)
    (schedule : Schedule) :
    (program.analyzeUnder resolver left file schedule).map (Extraction.mapErrors change) =
      (program.analyzeUnder resolver right file schedule).map (Extraction.mapErrors change) := by
  have candidates :
      (program.candidates resolver left file schedule).map
          (Attempt.mapError (Halt.mapError change)) =
        (program.candidates resolver right file schedule).map
          (Attempt.mapError (Halt.mapError change)) := by
    apply List.ext_getElem?
    intro place
    rw [List.getElem?_map, candidates_getElem?, List.getElem?_map, candidates_getElem?,
      Option.map_map, Option.map_map]
    cases found : (Directive.registrations (.program program))[place]? with
    | none => rfl
    | some call =>
        have same := Candidate.mapError_extract_congr change fun url document declares =>
          alike url document (declares_of_mem (List.mem_of_getElem? found) declares)
        simp only [Option.map_some, Function.comp_apply, Attempt.mapError, Candidate.ofDeclaration,
          same]
  rw [analyzeUnder, analyzeUnder, ← Extraction.ofResult_mapError, ← Extraction.ofResult_mapError,
    ← Attempt.join_map_mapError, ← Attempt.join_map_mapError, candidates]

theorem analyzeUnder_of_readAlike {left right : FileSource}
    (alike : program.ReadAlike resolver file left right) (schedule : Schedule) :
    (program.analyzeUnder resolver left file schedule).map (Extraction.mapErrors .withoutWords) =
      (program.analyzeUnder resolver right file schedule).map
        (Extraction.mapErrors .withoutWords) :=
  mapErrors_analyzeUnder_congr _
    (fun url document declares isDocument =>
      resolver.mapError_dependenciesOf document (alike url document declares isDocument)) schedule

theorem analyzeUnder_congr {left right : FileSource}
    (alike : ∀ url document, program.Declares url →
      resolver.documentPath? url file = some document →
      resolver.dependenciesOf document (left document) =
        resolver.dependenciesOf document (right document))
    (schedule : Schedule) :
    program.analyzeUnder resolver left file schedule =
      program.analyzeUnder resolver right file schedule := by
  have same := mapErrors_analyzeUnder_congr id
    (fun url document declares isDocument =>
      congrArg (Except.mapError id) (alike url document declares isDocument)) schedule
  have unchanged : Extraction.mapErrors id = id := funext Extraction.mapErrors_id
  rwa [unchanged, Option.map_id_fun, id_eq, id_eq] at same

/-! ## Reads that complete at other times -/

/-- No two registrations fail with different errors. -/
def FailsOneWay (program : Program) (resolver : TemplateResolver) (files : FileSource)
    (file : Path) : Prop :=
  ∀ call ∈ Directive.registrations (.program program),
    ∀ other ∈ Directive.registrations (.program program), ∀ error otherError,
      Candidate.FailsWith resolver files file call error →
      Candidate.FailsWith resolver files file other otherError → error = otherError

theorem analyzeUnder_eq_none_congr (left right : FileSource)
    (leftSchedule rightSchedule : Schedule) :
    program.analyzeUnder resolver left file leftSchedule = none ↔
      program.analyzeUnder resolver right file rightSchedule = none :=
  (analyzeUnder_eq_none_iff leftSchedule).trans (analyzeUnder_eq_none_iff rightSchedule).symm

/-- When the reads complete decides at most which error there is. -/
theorem agree_of_schedules {files : FileSource} {left right : Schedule}
    {leftResult rightResult : Extraction}
    (isLeft : program.analyzeUnder resolver files file left = some leftResult)
    (isRight : program.analyzeUnder resolver files file right = some rightResult) :
    (leftResult.errors = [] ↔ rightResult.errors = []) ∧
      leftResult.components = rightResult.components := by
  by_cases leftEmpty : leftResult.errors = []
  · rw [analyzeUnder_of_no_errors isLeft leftEmpty right, Option.some.injEq] at isRight
    exact isRight ▸ ⟨Iff.rfl, rfl⟩
  · by_cases rightEmpty : rightResult.errors = []
    · rw [analyzeUnder_of_no_errors isRight rightEmpty left, Option.some.injEq] at isLeft
      exact isLeft ▸ ⟨Iff.rfl, rfl⟩
    · rcases eq_failed_of_errors isLeft leftEmpty with ⟨leftError, rfl⟩
      rcases eq_failed_of_errors isRight rightEmpty with ⟨rightError, rfl⟩
      exact ⟨iff_of_false leftEmpty rightEmpty, rfl⟩

theorem analyzeUnder_of_failsOneWay {files : FileSource}
    (oneWay : program.FailsOneWay resolver files file) (left right : Schedule) :
    program.analyzeUnder resolver files file left =
      program.analyzeUnder resolver files file right := by
  have stops : program.analyzeUnder resolver files file left = none ↔
      program.analyzeUnder resolver files file right = none :=
    analyzeUnder_eq_none_congr files files left right
  cases isLeft : program.analyzeUnder resolver files file left with
  | none => exact (stops.mp isLeft).symm
  | some leftResult =>
      cases isRight : program.analyzeUnder resolver files file right with
      | none =>
          rw [stops.mpr isRight] at isLeft
          cases isLeft
      | some rightResult =>
          rcases yields_or_failsWith isLeft with ⟨_, noErrors⟩ | ⟨call, isCall, _, fails, rfl⟩
          · exact (analyzeUnder_of_no_errors isLeft noErrors right).symm.trans isRight
          · rcases yields_or_failsWith isRight with
              ⟨_, noErrors⟩ | ⟨other, isOther, _, otherFails, rfl⟩
            · exact isLeft.symm.trans (analyzeUnder_of_no_errors isRight noErrors left)
            · rw [oneWay call isCall other isOther _ _ fails otherFails]

/-- Of many registrations the outcomes are taken in order. -/
theorem analyzeUnder_of_many (files : FileSource)
    (many : Attempt.watchedTogether < (Directive.registrations (.program program)).length)
    (schedule : Schedule) :
    program.analyzeUnder resolver files file schedule =
      Extraction.ofResult (((Directive.registrations (.program program)).map fun call =>
        Candidate.extract resolver files file (Directive.read call)).mapM id) := by
  have tooMany : ¬(program.candidates resolver files file schedule).length ≤
      Attempt.watchedTogether := by
    simpa [candidates, Directive.readAll_eq] using many
  rw [analyzeUnder, Attempt.join, if_neg tooMany, Attempt.takeInOrder_eq_mapM,
    ← map_outcome_candidates program resolver files file schedule, List.mapM_map]
  rfl

theorem analyzeUnder_of_same_report {left right : FileSource}
    (alike : program.ReadAlike resolver file left right) {leftSchedule rightSchedule : Schedule}
    (sameReport : leftSchedule = rightSchedule ∨ program.FailsOneWay resolver left file ∨
      Attempt.watchedTogether < (Directive.registrations (.program program)).length) :
    (program.analyzeUnder resolver left file leftSchedule).map
        (Extraction.mapErrors .withoutWords) =
      (program.analyzeUnder resolver right file rightSchedule).map
        (Extraction.mapErrors .withoutWords) := by
  have same := analyzeUnder_of_readAlike alike rightSchedule
  rcases sameReport with rfl | oneWay | many
  · exact same
  · rwa [analyzeUnder_of_failsOneWay oneWay leftSchedule rightSchedule]
  · rwa [analyzeUnder_of_many left many leftSchedule,
      ← analyzeUnder_of_many left many rightSchedule]

/-- Results for two sources that are read alike agree in everything but the words of an error,
unless another failure is known first. -/
theorem agree_of_readAlike {left right : FileSource}
    (alike : program.ReadAlike resolver file left right) {leftSchedule rightSchedule : Schedule}
    {leftResult rightResult : Extraction}
    (isLeft : program.analyzeUnder resolver left file leftSchedule = some leftResult)
    (isRight : program.analyzeUnder resolver right file rightSchedule = some rightResult) :
    (leftResult.errors = [] ↔ rightResult.errors = []) ∧
      leftResult.components = rightResult.components ∧
      (leftSchedule = rightSchedule ∨ program.FailsOneWay resolver left file ∨
          Attempt.watchedTogether < (Directive.registrations (.program program)).length →
        leftResult.SameButWords rightResult) := by
  have same := analyzeUnder_of_readAlike alike leftSchedule
  rw [isLeft, Option.map_some] at same
  rcases Option.map_eq_some_iff.mp same.symm with ⟨other, isOther, otherSame⟩
  have agreeOther : leftResult.SameButWords other := otherSame.symm
  rcases agree_of_schedules isOther isRight with ⟨errors, components⟩
  refine ⟨agreeOther.errors_eq_nil_iff.trans errors, agreeOther.components_eq.trans components, ?_⟩
  intro sameReport
  have reports := analyzeUnder_of_same_report alike sameReport
  rw [isLeft, isRight, Option.map_some, Option.map_some, Option.some.injEq] at reports
  exact reports

/-! ## Nothing to read -/

theorem analyzeUnder_of_no_template (noTemplate : ∀ url, ¬program.Declares url)
    (left right : FileSource) (leftSchedule rightSchedule : Schedule) :
    program.analyzeUnder resolver left file leftSchedule =
      program.analyzeUnder resolver right file rightSchedule := by
  apply analyzeUnder_of_same_candidates
  intro place call member
  apply Candidate.ofDeclaration_of_no_template
  intro url declares
  exact noTemplate url (declares_of_mem member declares)

/-! ## Other resolvers -/

theorem analyzeUnder_of_same_documents {left right : TemplateResolver}
    (sameScanner : left.scanner = right.scanner)
    (sameFile : Path.absolute left.workingDirectory file =
      Path.absolute right.workingDirectory file)
    (sameDocuments : ∀ url, program.Declares url →
      left.documentPath? url file = right.documentPath? url file)
    (files : FileSource) (schedule : Schedule) :
    program.analyzeUnder left files file schedule =
      program.analyzeUnder right files file schedule := by
  apply analyzeUnder_of_same_candidates
  intro place call member
  apply Candidate.ofDeclaration_congr sameScanner sameFile
  intro url declares
  exact sameDocuments url (declares_of_mem member declares)

/-! ## Components -/

theorem yields_of_mem_components {files : FileSource} {schedule : Schedule} {result : Extraction}
    (analyzed : program.analyzeUnder resolver files file schedule = some result)
    {component : Descriptor} (member : component ∈ result.components) :
    ∃ call, Candidate.Yields resolver files file call component := by
  rcases yields_or_failsWith analyzed with ⟨yields, _⟩ | ⟨_, _, error, _, rfl⟩
  · rcases List.getElem?_of_mem member with ⟨place, found⟩
    rcases List.forall₂_iff_get.mp yields with ⟨sameLength, pointwise⟩
    rcases List.getElem?_eq_some_iff.mp found with ⟨inside, rfl⟩
    exact ⟨_, pointwise place (sameLength ▸ inside) inside⟩
  · cases member

theorem dependencies_of_mem_components {files : FileSource} {schedule : Schedule}
    {result : Extraction}
    (analyzed : program.analyzeUnder resolver files file schedule = some result)
    {component : Descriptor} (member : component ∈ result.components) :
    resolver.dependencies files component.templatePath file = .ok component.dependencies := by
  rcases yields_of_mem_components analyzed member with
    ⟨call, declaration, dependencies, _, found, rfl⟩
  exact found

/-- Of a source only the declared documents count: their contents, or why they cannot be
read. When the reads complete decides at most which failure is reported, and that only if
few registrations fail in different ways. Whether the program stops does not depend on the
source. Components with a template that is looked for beside the file depend on the same, and
those without depend on nothing. -/
theorem result_from_declared_documents (program : Program) (resolver : TemplateResolver)
    (file : Path) :
    (∀ left right, program.ReadAlike resolver file left right →
      ∀ leftSchedule rightSchedule,
        (program.analyzeUnder resolver left file leftSchedule = none ↔
          program.analyzeUnder resolver right file rightSchedule = none) ∧
        ∀ leftResult rightResult,
          program.analyzeUnder resolver left file leftSchedule = some leftResult →
          program.analyzeUnder resolver right file rightSchedule = some rightResult →
          (leftResult.errors = [] ↔ rightResult.errors = []) ∧
          leftResult.components = rightResult.components ∧
          (leftSchedule = rightSchedule ∨ program.FailsOneWay resolver left file ∨
              Attempt.watchedTogether < (Directive.registrations (.program program)).length →
            leftResult.SameButWords rightResult)) ∧
    (∀ left right : FileSource,
      (∀ url document, program.Declares url → resolver.documentPath? url file = some document →
        left document = right document) →
      ∀ schedule, program.analyzeUnder resolver left file schedule =
        program.analyzeUnder resolver right file schedule) ∧
    (∀ left right : MemoryFiles, (∀ memory ∈ left ++ right, memory.delay = 0) →
      program.ReadAlike resolver file left.source right.source →
      program.analyzeUnder resolver left.source file left.schedule =
        program.analyzeUnder resolver right.source file right.schedule) ∧
    ((∀ url, ¬program.Declares url) → ∀ left right leftSchedule rightSchedule,
      program.analyzeUnder resolver left file leftSchedule =
        program.analyzeUnder resolver right file rightSchedule) ∧
    (∀ files schedule result,
      program.analyzeUnder resolver files file schedule = some result →
      ∀ component ∈ result.components,
        (component.templatePath = none → component.dependencies = []) ∧
        (resolver.lookup = .companion → component.templatePath ≠ none →
          ∀ other ∈ result.components,
            other.templatePath ≠ none → component.dependencies = other.dependencies)) := by
  refine ⟨?_, ?_, ?_, analyzeUnder_of_no_template, ?_⟩
  · intro left right alike leftSchedule rightSchedule
    exact ⟨analyzeUnder_eq_none_congr left right leftSchedule rightSchedule,
      fun leftResult rightResult => agree_of_readAlike alike⟩
  · intro left right equal schedule
    apply analyzeUnder_congr
    intro url document declares isDocument
    rw [equal url document declares isDocument]
  · intro left right undelayed alike
    have leftAtOnce := MemoryFiles.schedule_of_undelayed fun memory member =>
      undelayed memory (List.mem_append_left right member)
    have rightAtOnce := MemoryFiles.schedule_of_undelayed fun memory member =>
      undelayed memory (List.mem_append_right left member)
    rw [leftAtOnce, rightAtOnce]
    apply analyzeUnder_congr
    intro url document declares isDocument
    exact resolver.dependenciesOf_memory document (alike url document declares isDocument)
  · intro files schedule result analyzed component member
    have found := dependencies_of_mem_components analyzed member
    constructor
    · intro noTemplate
      rw [noTemplate, TemplateResolver.dependencies, Except.ok.injEq] at found
      exact found.symm
    · intro companion hasTemplate other otherMember otherHasTemplate
      have otherFound := dependencies_of_mem_components analyzed otherMember
      rcases Option.ne_none_iff_exists'.mp hasTemplate with ⟨url, isUrl⟩
      rcases Option.ne_none_iff_exists'.mp otherHasTemplate with ⟨otherUrl, isOtherUrl⟩
      rw [isUrl, TemplateResolver.dependencies_companion companion files file url otherUrl,
        ← isOtherUrl, otherFound, Except.ok.injEq] at found
      exact found.symm

/-! ## Sources that differ -/

/-- One document is read a round later than the others. -/
def lateAt (document : Path) : Schedule := fun _ path => if path = document then 1 else 0

/-- Registrations with templates of their own. -/
def twoTemplates : Program where
  kind := .script
  items := ["a", "b"].map fun name => .statement (Directive.registering
    [.node (.string (some name)), .node (.object
      [.property (.name "templateUrl") (.node (.string (some (name ++ ".html"))))])])

/-- Beside the file a document cannot be read, or holds one element, in both of two sources
that differ elsewhere. -/
theorem companion_decides :
    (∃ leftResult rightResult,
      templatedAndPlain.analyzeUnder (.beside "html") .denied ⟨"/app.js"⟩ (fun _ _ => 0) =
        some leftResult ∧
      templatedAndPlain.analyzeUnder (.beside "html")
        (fun path => if path = ⟨"/app.html"⟩ then .error ⟨.permissionDenied, "no access"⟩
          else .ok "") ⟨"/app.js"⟩ (fun _ _ => 0) = some rightResult ∧
      leftResult.SameButWords rightResult) ∧
    templatedAndPlain.analyzeUnder (.beside "html") (fun _ => .ok "<pet-card></pet-card>")
        ⟨"/app.js"⟩ (fun _ _ => 1) =
      templatedAndPlain.analyzeUnder (.beside "html")
        (fun path => .ok (if path = ⟨"/app.html"⟩ then "<pet-card></pet-card>" else ""))
        ⟨"/app.js"⟩ (fun _ _ => 1) ∧
    (let left : MemoryFiles := [⟨⟨"/app.html"⟩, .failing .timedOut, 0⟩]
    let right : MemoryFiles :=
      [⟨⟨"/slow.html"⟩, .text "", 0⟩, ⟨⟨"/app.html"⟩, .failing .timedOut, 0⟩]
    templatedAndPlain.analyzeUnder (.beside "html") left.source ⟨"/app.js"⟩ left.schedule =
      templatedAndPlain.analyzeUnder (.beside "html") right.source ⟨"/app.js"⟩ right.schedule) ∧
    Program.analyzeUnder ⟨.script, [.statement Directive.plain]⟩ (.beside "html") .denied
        ⟨"/app.js"⟩ (fun _ _ => 1) =
      Program.analyzeUnder ⟨.script, [.statement Directive.plain]⟩ (.beside "html")
        (fun _ => .ok "") ⟨"/app.js"⟩ (fun _ _ => 0) ∧
    (∃ result, templatedAndPlain.analyzeUnder (.beside "html")
        (fun _ => .ok "<pet-card></pet-card>") ⟨"/app.js"⟩ (fun _ _ => 0) = some result ∧
      ∃ component ∈ result.components, component.name = "plain" ∧ component.dependencies = []) ∧
    (∃ result, twoTemplates.analyzeUnder (.beside "html")
        (fun _ => .ok "<pet-card></pet-card>") ⟨"/app.js"⟩ (fun _ _ => 0) = some result ∧
      result.components.length = 2 ∧
      ∀ component ∈ result.components, ∀ other ∈ result.components,
        component.dependencies = other.dependencies) := by
  have beside {url : String} {document : Path}
      (isDocument :
        TemplateResolver.documentPath? (.beside "html") url ⟨"/app.js"⟩ = some document) :
      document = ⟨"/app.html"⟩ := Option.some.inj (isDocument.symm.trans rfl)
  refine ⟨?_, ?_, ?_, ?_, ?_, ?_⟩
  · refine ⟨.failed (.unreadable "/app.html" ReadFailure.permissionDenied.toError),
      .failed (.unreadable "/app.html" ⟨.permissionDenied, "no access"⟩),
      by decide +kernel, by decide +kernel, ?_⟩
    refine (((result_from_declared_documents templatedAndPlain (.beside "html") ⟨"/app.js"⟩).1
      .denied (fun path => if path = ⟨"/app.html"⟩ then .error ⟨.permissionDenied, "no access"⟩
        else .ok "") ?_ (fun _ _ => 0) (fun _ _ => 0)).2 _ _ (by decide +kernel)
      (by decide +kernel)).2.2 (.inl rfl)
    intro url document declares isDocument
    rw [beside isDocument]
    exact .failure rfl
  · apply (result_from_declared_documents templatedAndPlain _ _).2.1
    intro url document declares isDocument
    rw [beside isDocument]
    rfl
  · apply (result_from_declared_documents templatedAndPlain _ _).2.2.1
    · simp
    · intro url document declares isDocument
      rw [beside isDocument]
      exact .failure rfl
  · apply (result_from_declared_documents _ _ _).2.2.2.1
    rintro url ⟨call, holds, registers, declares⟩
    have member := (Directive.mem_registrations_iff _ call).mpr ⟨holds, registers⟩
    have isPlain : call = Directive.plain := List.mem_singleton.mp member
    rw [isPlain, ← Directive.templatePath_eq_some_iff] at declares
    cases declares
  · have analyzed : templatedAndPlain.analyzeUnder (.beside "html")
        (fun _ => .ok "<pet-card></pet-card>") ⟨"/app.js"⟩ (fun _ _ => 0) =
        some ⟨[⟨"/app.js", "slow", none, none, some "slow.html", ["pet-card"]⟩,
          ⟨"/app.js", "plain", none, none, none, []⟩], []⟩ := by decide +kernel
    have found : (⟨"/app.js", "plain", none, none, none, []⟩ : Descriptor) ∈
        [⟨"/app.js", "slow", none, none, some "slow.html", ["pet-card"]⟩,
          ⟨"/app.js", "plain", none, none, none, []⟩] := by simp
    have parts :=
      (result_from_declared_documents templatedAndPlain _ _).2.2.2.2 _ _ _ analyzed _ found
    exact ⟨_, analyzed, _, found, rfl, parts.1 rfl⟩
  · have analyzed : twoTemplates.analyzeUnder (.beside "html")
        (fun _ => .ok "<pet-card></pet-card>") ⟨"/app.js"⟩ (fun _ _ => 0) =
        some ⟨[⟨"/app.js", "a", none, none, some "a.html", ["pet-card"]⟩,
          ⟨"/app.js", "b", none, none, some "b.html", ["pet-card"]⟩], []⟩ := by decide +kernel
    have parts := (result_from_declared_documents twoTemplates _ _).2.2.2.2 _ _ _ analyzed
    refine ⟨_, analyzed, rfl, fun component member other otherMember => ?_⟩
    have haveTemplates : ∀ component ∈
        ([⟨"/app.js", "a", none, none, some "a.html", ["pet-card"]⟩,
          ⟨"/app.js", "b", none, none, some "b.html", ["pet-card"]⟩] : List Descriptor),
        component.templatePath ≠ none := by simp
    exact (parts component member).2 rfl (haveTemplates component member) other otherMember
      (haveTemplates other otherMember)

/-- Two templates that cannot be read: the one that is known first is reported, so that the
result changes with the schedule. -/
theorem completion_order_counts :
    twoTemplates.ReadAlike .asDeclared ⟨"/app.js"⟩ .denied .denied ∧
    ∃ leftResult rightResult,
      twoTemplates.analyzeUnder .asDeclared .denied ⟨"/app.js"⟩ (lateAt ⟨"/b.html"⟩) =
        some leftResult ∧
      twoTemplates.analyzeUnder .asDeclared .denied ⟨"/app.js"⟩ (lateAt ⟨"/a.html"⟩) =
        some rightResult ∧
      ¬leftResult.SameButWords rightResult := by
  constructor
  · exact fun url document declares isDocument => .failure rfl
  · refine ⟨.failed (.unreadable "/a.html" ReadFailure.permissionDenied.toError),
      .failed (.unreadable "/b.html" ReadFailure.permissionDenied.toError),
      by decide +kernel, by decide +kernel, ?_⟩
    unfold Extraction.SameButWords
    decide

end Program

end DirectiveScan
