import DirectiveScan.Extract.Attempt
import Mathlib.Data.Nat.Find

namespace DirectiveScan

/-! What a wait for several attempts yields.

A wait succeeds exactly when every attempt does, and its values are then those of the
attempts, in their order. Otherwise few attempts fail with the failure that is known
earliest, and many attempts fail with the failure that stands first. -/

/-! ## Going through a list up to the first error -/

section Except

variable {ε β γ : Type}

theorem mapM_cons_of_error (attempt : β → Except ε γ) {value : β} {error : ε}
    (fails : attempt value = .error error) (values : List β) :
    (value :: values).mapM attempt = .error error := by
  rw [List.mapM_cons, fails]
  rfl

theorem mapM_cons_of_ok (attempt : β → Except ε γ) {value : β} {result : γ}
    (succeeds : attempt value = .ok result) (values : List β) :
    (value :: values).mapM attempt = (values.mapM attempt).map (result :: ·) := by
  rw [List.mapM_cons, succeeds]
  cases values.mapM attempt <;> rfl

theorem map_eq_error_iff (transform : β → γ) (result : Except ε β) (error : ε) :
    result.map transform = .error error ↔ result = .error error := by
  cases result <;> simp [Except.map]

theorem mapM_eq_ok_map (attempt : β → Except ε γ) (result : β → γ) (values : List β)
    (succeeds : ∀ value ∈ values, attempt value = .ok (result value)) :
    values.mapM attempt = .ok (values.map result) := by
  induction values with
  | nil => rfl
  | cons head tail induction =>
      have headSucceeds := succeeds head (by simp)
      have tailSucceeds := induction fun value member => succeeds value (by simp [member])
      rw [mapM_cons_of_ok attempt headSucceeds, tailSucceeds]
      rfl

/-- The error at a place wins when everything before that place succeeds. -/
theorem mapM_eq_error (attempt : β → Except ε γ) {values : List β} {place : Nat} {value : β}
    {error : ε} (found : values[place]? = some value) (fails : attempt value = .error error)
    (earlier : ∀ before, before < place → ∀ other, values[before]? = some other →
      ∃ result, attempt other = .ok result) :
    values.mapM attempt = .error error := by
  induction values generalizing place with
  | nil => simp at found
  | cons head tail induction =>
      cases place with
      | zero =>
          have equal : head = value := by simpa using found
          exact equal ▸ mapM_cons_of_error attempt fails tail
      | succ place =>
          rcases earlier 0 (by omega) head (by simp) with ⟨result, headSucceeds⟩
          have tailFound : tail[place]? = some value := by simpa using found
          have tailFails := induction tailFound fun before less other present =>
            earlier (before + 1) (by omega) other (by simpa using present)
          rw [mapM_cons_of_ok attempt headSucceeds, tailFails]
          rfl

/-- A run of one round more is the run followed by that round. -/
theorem foldlM_range_succ (round : β → Nat → Except ε β) (start : β) (count : Nat) :
    (List.range (count + 1)).foldlM round start =
      ((List.range count).foldlM round start).bind fun state => round state count := by
  rw [List.range_succ, List.foldlM_append]
  simp only [List.foldlM_cons, List.foldlM_nil, bind_pure]
  rfl

end Except

namespace Attempt

variable {ε α : Type}

/-! ## Failures -/

/-- The attempt at a place fails, and this is known in the given round. -/
def FailsAt (attempts : List (Attempt ε α)) (place round : Nat) (error : ε) : Prop :=
  attempts[place]? = some ⟨round, .error error⟩

/-- The failure that is known in the least round. Of those known in that round it is
the first one. -/
def EarliestFailure (attempts : List (Attempt ε α)) (place : Nat) (error : ε) : Prop :=
  ∃ round, FailsAt attempts place round error ∧
    ∀ otherPlace otherRound otherError, FailsAt attempts otherPlace otherRound otherError →
      round < otherRound ∨ round = otherRound ∧ place ≤ otherPlace

/-- The failure that stands first, whenever it is known. -/
def FirstFailure (attempts : List (Attempt ε α)) (place : Nat) (error : ε) : Prop :=
  (∃ round, FailsAt attempts place round error) ∧
    ∀ otherPlace otherRound otherError, FailsAt attempts otherPlace otherRound otherError →
      place ≤ otherPlace

theorem EarliestFailure.failsAt {attempts : List (Attempt ε α)} {place : Nat} {error : ε}
    (failure : EarliestFailure attempts place error) :
    ∃ place round error, FailsAt attempts place round error := by
  rcases failure with ⟨round, found, _⟩
  exact ⟨place, round, error, found⟩

theorem FirstFailure.failsAt {attempts : List (Attempt ε α)} {place : Nat} {error : ε}
    (failure : FirstFailure attempts place error) :
    ∃ place round error, FailsAt attempts place round error := by
  rcases failure with ⟨⟨round, found⟩, _⟩
  exact ⟨place, round, error, found⟩

theorem exists_failsAt {attempts : List (Attempt ε α)} {attempt : Attempt ε α} {error : ε}
    (member : attempt ∈ attempts) (fails : attempt.outcome = .error error) :
    ∃ place round, FailsAt attempts place round error := by
  rcases List.getElem?_of_mem member with ⟨place, found⟩
  refine ⟨place, attempt.completesAt, ?_⟩
  rw [FailsAt, found, ← fails]

/-- What does not fail has a value. -/
theorem outcome_eq_ok {attempts : List (Attempt ε α)} {place : Nat} {attempt : Attempt ε α}
    (found : attempts[place]? = some attempt)
    (quiet : ∀ error, ¬FailsAt attempts place attempt.completesAt error) :
    ∃ value, attempt.outcome = .ok value := by
  cases outcome : attempt.outcome with
  | ok value => exact ⟨value, rfl⟩
  | error error =>
      refine absurd ?_ (quiet error)
      rw [FailsAt, found, ← outcome]

theorem exists_earliestFailure {attempts : List (Attempt ε α)}
    (fails : ∃ place round error, FailsAt attempts place round error) :
    ∃ place error, EarliestFailure attempts place error := by
  classical
  have someRound : ∃ round, ∃ place error, FailsAt attempts place round error := by
    rcases fails with ⟨place, round, error, found⟩
    exact ⟨round, place, error, found⟩
  -- the least round first, and then the least place among the failures of that round
  have somePlace := Nat.find_spec someRound
  rcases Nat.find_spec somePlace with ⟨error, found⟩
  refine ⟨Nat.find somePlace, error, Nat.find someRound, found, ?_⟩
  intro otherPlace otherRound otherError otherFound
  have roundLeast := Nat.find_min' someRound ⟨otherPlace, otherError, otherFound⟩
  rcases Nat.lt_or_eq_of_le roundLeast with less | equal
  · exact .inl less
  · refine .inr ⟨equal, Nat.find_min' somePlace ⟨otherError, ?_⟩⟩
    rw [equal]
    exact otherFound

theorem exists_firstFailure {attempts : List (Attempt ε α)}
    (fails : ∃ place round error, FailsAt attempts place round error) :
    ∃ place error, FirstFailure attempts place error := by
  classical
  have somePlace : ∃ place, ∃ round error, FailsAt attempts place round error := fails
  rcases Nat.find_spec somePlace with ⟨round, error, found⟩
  refine ⟨Nat.find somePlace, error, ⟨round, found⟩, ?_⟩
  intro otherPlace otherRound otherError otherFound
  exact Nat.find_min' somePlace ⟨otherRound, otherError, otherFound⟩

/-! ## The state before a round -/

/-- What has been seen of an attempt before a round. -/
def Slot.before (round : Nat) (attempt : Attempt ε α) : Slot ε α :=
  if attempt.completesAt < round then .known attempt.outcome else .awaited attempt

theorem Slot.before_zero : Slot.before 0 = (Slot.awaited : Attempt ε α → Slot ε α) := by
  funext attempt
  simp [Slot.before]

theorem Slot.look_before (round : Nat) (attempt : Attempt ε α) :
    (Slot.before round attempt).look round = Slot.before (round + 1) attempt := by
  by_cases earlier : attempt.completesAt < round
  · have seen : attempt.completesAt < round + 1 := by omega
    simp [Slot.before, Slot.look, earlier, seen]
  · simp only [Slot.before, Slot.look, earlier, if_false, Nat.lt_succ_iff]

theorem completesAt_le_lastRound {attempts : List (Attempt ε α)} {attempt : Attempt ε α}
    (member : attempt ∈ attempts) : attempt.completesAt ≤ lastRound attempts := by
  induction attempts with
  | nil => cases member
  | cons head tail induction =>
      rcases List.mem_cons.mp member with equal | member
      · subst head
        exact Nat.le_max_left _ _
      · exact Nat.le_trans (induction member) (Nat.le_max_right _ _)

/-- After the last round nothing is awaited any more. -/
theorem map_before_lastRound (attempts : List (Attempt ε α)) :
    attempts.map (Slot.before (lastRound attempts + 1)) =
      attempts.map fun attempt => .known attempt.outcome := by
  apply List.map_congr_left
  intro attempt member
  have known : attempt.completesAt < lastRound attempts + 1 :=
    Nat.lt_succ_of_le (completesAt_le_lastRound member)
  simp [Slot.before, known]

/-! ## Few attempts -/

theorem Slot.watch_before_of_quiet {round : Nat} {attempt : Attempt ε α}
    (quiet : attempt.completesAt ≤ round → ∃ value, attempt.outcome = .ok value) :
    (Slot.before round attempt).watch round = .ok (Slot.before (round + 1) attempt) := by
  rw [Slot.watch, Slot.look_before]
  by_cases known : attempt.completesAt ≤ round
  · rcases quiet known with ⟨value, succeeds⟩
    simp [Slot.before, Nat.lt_succ_of_le known, succeeds]
  · have awaited : ¬attempt.completesAt < round + 1 := by omega
    simp [Slot.before, awaited]

theorem Slot.watch_before_of_fails {round : Nat} {attempt : Attempt ε α} {error : ε}
    (known : attempt.completesAt ≤ round) (fails : attempt.outcome = .error error) :
    (Slot.before round attempt).watch round = .error error := by
  rw [Slot.watch, Slot.look_before]
  simp [Slot.before, Nat.lt_succ_of_le known, fails]

/-- A round in which no failure is known leads to the state before the next round. -/
theorem watchRound_of_quiet {attempts : List (Attempt ε α)} {round : Nat}
    (quiet : ∀ attempt ∈ attempts, attempt.completesAt ≤ round →
      ∃ value, attempt.outcome = .ok value) :
    watchRound (attempts.map (Slot.before round)) round =
      .ok (attempts.map (Slot.before (round + 1))) := by
  rw [watchRound, List.mapM_map]
  apply mapM_eq_ok_map
  intro attempt member
  exact Slot.watch_before_of_quiet (quiet attempt member)

/-- A round ends with the first of the failures that are known in it. -/
theorem watchRound_of_failsAt {attempts : List (Attempt ε α)} {place knownAt round : Nat}
    {error : ε} (fails : FailsAt attempts place knownAt error) (known : knownAt ≤ round)
    (first : ∀ otherPlace otherRound otherError,
      FailsAt attempts otherPlace otherRound otherError → otherRound ≤ round →
        place ≤ otherPlace) :
    watchRound (attempts.map (Slot.before round)) round = .error error := by
  rw [watchRound, List.mapM_map]
  apply mapM_eq_error _ fails (Slot.watch_before_of_fails known rfl)
  intro before less other found
  refine ⟨_, Slot.watch_before_of_quiet fun otherKnown => ?_⟩
  apply outcome_eq_ok found
  intro otherError otherFails
  have notBefore := first before other.completesAt otherError otherFails otherKnown
  omega

/-- As long as no failure is known, a wait only collects outcomes. -/
theorem foldlM_watchRound_of_quiet {attempts : List (Attempt ε α)} (count : Nat)
    (quiet : ∀ attempt ∈ attempts, attempt.completesAt < count →
      ∃ value, attempt.outcome = .ok value) :
    (List.range count).foldlM watchRound (attempts.map .awaited) =
      .ok (attempts.map (Slot.before count)) := by
  induction count with
  | zero => simp [Slot.before_zero, pure, Except.pure]
  | succ count induction =>
      have soFar := induction fun attempt member known => quiet attempt member (by omega)
      have next : watchRound (attempts.map (Slot.before count)) count =
          .ok (attempts.map (Slot.before (count + 1))) :=
        watchRound_of_quiet fun attempt member known => quiet attempt member (by omega)
      rw [foldlM_range_succ, soFar]
      exact next

/-- The round of the earliest failure ends the wait, whatever else is under way. -/
theorem foldlM_watchRound_of_earliestFailure {attempts : List (Attempt ε α)}
    {place round count : Nat} {error : ε} (fails : FailsAt attempts place round error)
    (earliest : ∀ otherPlace otherRound otherError,
      FailsAt attempts otherPlace otherRound otherError →
        round < otherRound ∨ round = otherRound ∧ place ≤ otherPlace)
    (within : round < count) :
    (List.range count).foldlM watchRound (attempts.map .awaited) = .error error := by
  have quiet : ∀ attempt ∈ attempts, attempt.completesAt < round →
      ∃ value, attempt.outcome = .ok value := by
    intro attempt member known
    rcases List.getElem?_of_mem member with ⟨otherPlace, found⟩
    apply outcome_eq_ok found
    intro otherError otherFails
    have notBefore := earliest otherPlace attempt.completesAt otherError otherFails
    omega
  have ends := watchRound_of_failsAt fails (Nat.le_refl round)
    fun otherPlace otherRound otherError otherFails known => by
      have := earliest otherPlace otherRound otherError otherFails
      omega
  induction count with
  | zero => omega
  | succ count induction =>
      rw [foldlM_range_succ]
      rcases Nat.lt_or_eq_of_le (Nat.le_of_lt_succ within) with less | equal
      · rw [induction less]
        rfl
      · subst count
        rw [foldlM_watchRound_of_quiet round quiet]
        exact ends

theorem watchTogether_of_values {attempts : List (Attempt ε α)} {values : List α}
    (succeed : attempts.map Attempt.outcome = values.map .ok) :
    watchTogether attempts = .ok values := by
  have quiet : ∀ attempt ∈ attempts, attempt.completesAt < lastRound attempts + 1 →
      ∃ value, attempt.outcome = .ok value := by
    intro attempt member _
    have outcome : attempt.outcome ∈ values.map Except.ok := by
      rw [← succeed]
      exact List.mem_map_of_mem member
    rcases List.mem_map.mp outcome with ⟨value, _, equal⟩
    exact ⟨value, equal.symm⟩
  have slots : attempts.map (fun attempt => Slot.known attempt.outcome) =
      values.map fun value => (Slot.known (.ok value) : Slot ε α) := by
    have := congrArg (List.map Slot.known) succeed
    rwa [List.map_map, List.map_map] at this
  rw [watchTogether, rounds, foldlM_watchRound_of_quiet _ quiet, map_before_lastRound, slots]
  simp [Except.map, List.filterMap_map, Function.comp_def, Slot.value?]

theorem watchTogether_of_earliestFailure {attempts : List (Attempt ε α)} {place : Nat}
    {error : ε} (failure : EarliestFailure attempts place error) :
    watchTogether attempts = .error error := by
  rcases failure with ⟨round, fails, earliest⟩
  have within : round < lastRound attempts + 1 :=
    Nat.lt_succ_of_le (completesAt_le_lastRound (List.mem_of_getElem? fails))
  rw [watchTogether, rounds, foldlM_watchRound_of_earliestFailure fails earliest within]
  rfl

/-! ## Many attempts -/

/-- A slot that is known stays as it is, so handing over before a look changes nothing. -/
theorem Queue.handOver_bind_advance (round : Nat) (delivered : List α)
    (slots : List (Slot ε α)) :
    (Queue.handOver delivered slots).bind (·.advance round) =
      Queue.handOver delivered (slots.map (Slot.look round)) := by
  induction slots generalizing delivered with
  | nil => rfl
  | cons slot rest induction =>
      cases slot with
      | awaited attempt => rfl
      | known outcome =>
          cases outcome with
          | error error => rfl
          | ok value => exact induction (delivered ++ [value])

/-- After any number of rounds, a queue has handed over what is known at its front. -/
theorem foldlM_advance (attempts : List (Attempt ε α)) (count : Nat) :
    (List.range count).foldlM Queue.advance ⟨[], attempts.map .awaited⟩ =
      Queue.handOver [] (attempts.map (Slot.before count)) := by
  induction count with
  | zero =>
      rw [Slot.before_zero]
      cases attempts <;> rfl
  | succ count induction =>
      have looked : (attempts.map (Slot.before count)).map (Slot.look count) =
          attempts.map (Slot.before (count + 1)) := by
        simp [Function.comp_def, Slot.look_before]
      rw [foldlM_range_succ, induction, ← looked]
      exact Queue.handOver_bind_advance count [] _

theorem Queue.handOver_known (attempts : List (Attempt ε α)) (delivered : List α) :
    Queue.handOver delivered (attempts.map fun attempt => .known attempt.outcome) =
      (attempts.mapM Attempt.outcome).map fun values => ⟨delivered ++ values, []⟩ := by
  induction attempts generalizing delivered with
  | nil => simp [Queue.handOver, Except.map, pure, Except.pure]
  | cons attempt rest induction =>
      rw [List.map_cons, List.mapM_cons]
      cases outcome : attempt.outcome with
      | error error => rfl
      | ok value =>
          rw [Queue.handOver, induction]
          cases rest.mapM Attempt.outcome with
          | error error => rfl
          | ok values => simp [Except.map, bind, Except.bind, pure, Except.pure]

/-- The rounds do not matter for a queue: its result is that of going through the
outcomes in order. -/
theorem takeInOrder_eq_mapM (attempts : List (Attempt ε α)) :
    takeInOrder attempts = attempts.mapM Attempt.outcome := by
  rw [takeInOrder, rounds, foldlM_advance, map_before_lastRound, Queue.handOver_known]
  cases attempts.mapM Attempt.outcome with
  | error error => rfl
  | ok values => simp [Except.map]

theorem takeInOrder_of_values {attempts : List (Attempt ε α)} {values : List α}
    (succeed : attempts.map Attempt.outcome = values.map .ok) :
    takeInOrder attempts = .ok values := by
  have mapped := List.mapM_map (m := Except ε) (f := Attempt.outcome) (g := id) (l := attempts)
  rw [takeInOrder_eq_mapM]
  calc attempts.mapM Attempt.outcome
      = (attempts.map Attempt.outcome).mapM id := mapped.symm
    _ = (values.map Except.ok).mapM id := by rw [succeed]
    _ = values.mapM Except.ok := List.mapM_map
    _ = .ok values := by simpa using mapM_eq_ok_map Except.ok id values fun _ _ => rfl

theorem takeInOrder_of_firstFailure {attempts : List (Attempt ε α)} {place : Nat} {error : ε}
    (failure : FirstFailure attempts place error) : takeInOrder attempts = .error error := by
  rcases failure with ⟨⟨round, fails⟩, first⟩
  rw [takeInOrder_eq_mapM]
  apply mapM_eq_error Attempt.outcome fails rfl
  intro before less other found
  apply outcome_eq_ok found
  intro otherError otherFails
  have notBefore := first before other.completesAt otherError otherFails
  omega

/-! ## Any number of attempts -/

/-- Either all attempts have values, or one of them fails. -/
theorem values_or_failure (attempts : List (Attempt ε α)) :
    (∃ values : List α, attempts.map Attempt.outcome = values.map .ok) ∨
      ∃ place round error, FailsAt attempts place round error := by
  by_cases fails : ∃ attempt ∈ attempts, ∃ error, attempt.outcome = .error error
  · rcases fails with ⟨attempt, member, error, outcome⟩
    rcases exists_failsAt member outcome with ⟨place, round, found⟩
    exact .inr ⟨place, round, error, found⟩
  · refine .inl ⟨attempts.filterMap (·.outcome.toOption), ?_⟩
    induction attempts with
    | nil => rfl
    | cons attempt rest induction =>
        have restSucceeds := induction fun ⟨other, member, failure⟩ =>
          fails ⟨other, List.mem_cons_of_mem attempt member, failure⟩
        cases outcome : attempt.outcome with
        | error error => exact absurd ⟨attempt, by simp, error, outcome⟩ fails
        | ok value => simp [outcome, Except.toOption, restSucceeds]

/-- When every attempt has a value, a wait gives the values in order. -/
theorem join_of_values {attempts : List (Attempt ε α)} {values : List α}
    (succeed : attempts.map Attempt.outcome = values.map .ok) : join attempts = .ok values := by
  rw [join]
  split
  · exact watchTogether_of_values succeed
  · exact takeInOrder_of_values succeed

/-- When attempts fail, their number decides which failure a wait ends with. -/
theorem join_of_failures {attempts : List (Attempt ε α)} {earliestPlace firstPlace : Nat}
    {earliest first : ε} (earliestFailure : EarliestFailure attempts earliestPlace earliest)
    (firstFailure : FirstFailure attempts firstPlace first) :
    join attempts =
      .error (if attempts.length ≤ watchedTogether then earliest else first) := by
  rw [join]
  split
  · exact watchTogether_of_earliestFailure earliestFailure
  · exact takeInOrder_of_firstFailure firstFailure

/-- When an attempt fails, a wait ends with the failure of one of them. -/
theorem exists_join_eq_error {attempts : List (Attempt ε α)}
    (fails : ∃ place round error, FailsAt attempts place round error) :
    ∃ place round error, FailsAt attempts place round error ∧ join attempts = .error error := by
  rcases exists_earliestFailure fails with ⟨earliestPlace, earliest, earliestFailure⟩
  rcases exists_firstFailure fails with ⟨firstPlace, first, firstFailure⟩
  rw [join_of_failures earliestFailure firstFailure]
  split
  · rcases earliestFailure with ⟨round, found, _⟩
    exact ⟨earliestPlace, round, earliest, found, rfl⟩
  · rcases firstFailure with ⟨⟨round, found⟩, _⟩
    exact ⟨firstPlace, round, first, found, rfl⟩

/-- The error of a wait is the failure of one of the attempts. -/
theorem exists_failsAt_of_join {attempts : List (Attempt ε α)} {error : ε}
    (ends : join attempts = .error error) : ∃ place round, FailsAt attempts place round error := by
  rcases values_or_failure attempts with ⟨values, succeed⟩ | fails
  · rw [join_of_values succeed] at ends
    cases ends
  · rcases exists_join_eq_error fails with ⟨place, round, other, found, otherEnds⟩
    rw [otherEnds, Except.error.injEq] at ends
    exact ⟨place, round, ends ▸ found⟩

/-- When everything is known at once, the number of attempts does not matter. -/
theorem join_of_atOnce {attempts : List (Attempt ε α)}
    (atOnce : ∀ attempt ∈ attempts, attempt.completesAt = 0) :
    join attempts = attempts.mapM Attempt.outcome := by
  rw [← takeInOrder_eq_mapM]
  rcases values_or_failure attempts with ⟨values, succeed⟩ | fails
  · rw [join_of_values succeed, takeInOrder_of_values succeed]
  · rcases exists_firstFailure fails with ⟨place, error, ⟨round, found⟩, first⟩
    have earliest : EarliestFailure attempts place error := by
      refine ⟨round, found, fun otherPlace otherRound otherError otherFound => .inr ⟨?_, ?_⟩⟩
      · have isZero := atOnce _ (List.mem_of_getElem? found)
        have otherIsZero := atOnce _ (List.mem_of_getElem? otherFound)
        exact isZero.trans otherIsZero.symm
      · exact first otherPlace otherRound otherError otherFound
    rw [join_of_failures earliest ⟨⟨round, found⟩, first⟩, ite_self,
      takeInOrder_of_firstFailure ⟨⟨round, found⟩, first⟩]

end Attempt

end DirectiveScan
