import DirectiveScan.Proofs.Extract.AllOrNothing

namespace DirectiveScan

/-! Which failure of a file is reported.

Few registrations are watched together, and the failure that is known earliest is
reported. The outcomes of many registrations are taken in order, and the first failure in
that order is reported even when another one is known long before it. A registration that
stops the program counts as a failure of its own kind. -/

namespace Program

open Attempt (EarliestFailure FirstFailure FailsAt watchedTogether)

variable (program : Program) (resolver : TemplateResolver) (files : FileSource) (file : Path)
  (schedule : Schedule)

/-- What is known in the least round decides the result, and of what is known in that round
what becomes of the registration that is found first. -/
def ReportsEarliest : Prop :=
  ∀ place halt,
    EarliestFailure (program.candidates resolver files file schedule) place halt →
    program.analyzeUnder resolver files file schedule = Extraction.ofHalt halt

theorem length_candidates :
    (program.candidates resolver files file schedule).length =
      (Directive.registrations (.program program)).length := by
  simp [candidates, Directive.readAll_eq]

variable {program resolver files file schedule}

theorem analyzeUnder_of_failures {earliestPlace firstPlace : Nat} {earliest first : Halt}
    (earliestFailure : EarliestFailure
      (program.candidates resolver files file schedule) earliestPlace earliest)
    (firstFailure : FirstFailure
      (program.candidates resolver files file schedule) firstPlace first) :
    program.analyzeUnder resolver files file schedule =
      Extraction.ofHalt (if (Directive.registrations (.program program)).length ≤ watchedTogether
        then earliest else first) := by
  rw [analyzeUnder, Attempt.join_of_failures earliestFailure firstFailure, length_candidates]
  rfl

theorem analyzeUnder_of_earliestFailure
    (few : (Directive.registrations (.program program)).length ≤ watchedTogether)
    {place : Nat} {halt : Halt}
    (earliestFailure : EarliestFailure
      (program.candidates resolver files file schedule) place halt) :
    program.analyzeUnder resolver files file schedule = Extraction.ofHalt halt := by
  rcases Attempt.exists_firstFailure earliestFailure.failsAt
    with ⟨firstPlace, first, firstFailure⟩
  rw [analyzeUnder_of_failures earliestFailure firstFailure, if_pos few]

theorem analyzeUnder_of_firstFailure
    (many : watchedTogether < (Directive.registrations (.program program)).length)
    {place : Nat} {halt : Halt}
    (firstFailure : FirstFailure
      (program.candidates resolver files file schedule) place halt) :
    program.analyzeUnder resolver files file schedule = Extraction.ofHalt halt := by
  rcases Attempt.exists_earliestFailure firstFailure.failsAt
    with ⟨earliestPlace, earliest, earliestFailure⟩
  rw [analyzeUnder_of_failures earliestFailure firstFailure, if_neg (Nat.not_le.mpr many)]

/-- Beyond the number of registrations that are watched together, the earliest failure is
reported only when the first one is the same. -/
theorem reportsEarliest_iff :
    program.ReportsEarliest resolver files file schedule ↔
      (Directive.registrations (.program program)).length ≤ watchedTogether ∨
      ∀ earliestPlace firstPlace earliest first,
        EarliestFailure (program.candidates resolver files file schedule)
          earliestPlace earliest →
        FirstFailure (program.candidates resolver files file schedule) firstPlace first →
        earliest = first := by
  constructor
  · intro reports
    by_cases few :
        (Directive.registrations (.program program)).length ≤ watchedTogether
    · exact .inl few
    · refine .inr fun earliestPlace firstPlace earliest first earliestFailure firstFailure => ?_
      have reported := reports earliestPlace earliest earliestFailure
      rw [analyzeUnder_of_firstFailure (Nat.not_le.mp few) firstFailure] at reported
      exact (Extraction.ofHalt_inj.mp reported).symm
  · intro condition place halt earliestFailure
    rcases condition with few | same
    · exact analyzeUnder_of_earliestFailure few earliestFailure
    · rcases Attempt.exists_firstFailure earliestFailure.failsAt
        with ⟨firstPlace, first, firstFailure⟩
      have equal := same place firstPlace halt first earliestFailure firstFailure
      rw [analyzeUnder_of_failures earliestFailure firstFailure, ← equal, ite_self]

/-- There is an earliest failure exactly when a registration yields nothing. Up to the number of
registrations that are watched together it decides the result, whatever the schedule.
Beyond that number the first one in the order of the registrations does, so that the
earliest failure is reported only if it is the same. What stops the program counts as a
failure that is known at once, and leaves no report. -/
theorem reported_failure (program : Program) (resolver : TemplateResolver)
    (files : FileSource) (file : Path) (schedule : Schedule) :
    ((∃ call ∈ Directive.registrations (.program program), ∃ halt,
        Candidate.HaltsWith resolver files file call halt) ↔
      ∃ place halt,
        EarliestFailure (program.candidates resolver files file schedule) place halt) ∧
    ((Directive.registrations (.program program)).length ≤ watchedTogether →
      ∀ place halt,
        EarliestFailure (program.candidates resolver files file schedule) place halt →
        program.analyzeUnder resolver files file schedule = Extraction.ofHalt halt) ∧
    (watchedTogether < (Directive.registrations (.program program)).length →
      ∀ place halt,
        FirstFailure (program.candidates resolver files file schedule) place halt →
        program.analyzeUnder resolver files file schedule = Extraction.ofHalt halt) ∧
    (program.ReportsEarliest resolver files file schedule ↔
      (Directive.registrations (.program program)).length ≤ watchedTogether ∨
      ∀ earliestPlace firstPlace earliest first,
        EarliestFailure (program.candidates resolver files file schedule)
          earliestPlace earliest →
        FirstFailure (program.candidates resolver files file schedule) firstPlace first →
        earliest = first) := by
  refine ⟨?_, ?_, ?_, reportsEarliest_iff⟩
  · rw [← exists_failsAt_iff program resolver files file schedule]
    constructor
    · exact Attempt.exists_earliestFailure
    · intro ⟨place, halt, earliestFailure⟩
      exact earliestFailure.failsAt
  · intro few place halt earliestFailure
    exact analyzeUnder_of_earliestFailure few earliestFailure
  · intro many place halt firstFailure
    exact analyzeUnder_of_firstFailure many firstFailure

/-! ## A file in which a later failure hides an earlier one -/

/-- A registration with a template, one without a proper name, and enough others for all
of them to be taken in order. -/
def crowded : Program where
  kind := .script
  items := ([Directive.templated, Directive.registering [.node (.identifier "name")]] ++
    List.replicate 29 Directive.plain).map Part.statement

/-- The missing name is known at once, and reported is the document that cannot be read,
which is known after one round. -/
theorem later_failure_reported :
    ¬crowded.ReportsEarliest (.beside "html") .denied ⟨"/app.js"⟩ fun _ _ => 1 := by
  let candidates := crowded.candidates (.beside "html") .denied ⟨"/app.js"⟩ fun _ _ => 1
  have slow : FailsAt candidates 0 1
      (.failed (.unreadable "/app.html" ReadFailure.permissionDenied.toError)) := rfl
  have unnamed : FailsAt candidates 1 0 (.failed (.unsupportedNameForm "Identifier")) := rfl
  have earliest :
      EarliestFailure candidates 1 (.failed (.unsupportedNameForm "Identifier")) := by
    refine ⟨0, unnamed, fun otherPlace otherRound otherHalt fails => ?_⟩
    cases otherPlace with
    | zero =>
        have same := Option.some.inj (slow.symm.trans fails)
        cases same
        exact .inl Nat.zero_lt_one
    | succ otherPlace => omega
  have first : FirstFailure candidates 0
      (.failed (.unreadable "/app.html" ReadFailure.permissionDenied.toError)) :=
    ⟨⟨1, slow⟩, fun _ _ _ _ => Nat.zero_le _⟩
  rw [reportsEarliest_iff]
  intro condition
  rcases condition with few | same
  · exact absurd few (by decide)
  · cases same 1 0 _ _ earliest first

end Program

end DirectiveScan
