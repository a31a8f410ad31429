namespace DirectiveScan

/-! Waiting for several attempts at once.

Attempts are followed in rounds. A few attempts are watched together: a round looks
at all of them in order, and the first failure that is seen ends the wait. Of many
attempts the outcomes are handed over strictly in order, however early they are
known. -/

/-- Something under way: the round in which its outcome is known, and the outcome. -/
structure Attempt (ε α : Type) where
  completesAt : Nat
  outcome : Except ε α

namespace Attempt

variable {ε α : Type}

/-- What has been seen of an attempt. -/
inductive Slot (ε α : Type) where
  | awaited (attempt : Attempt ε α)
  | known (outcome : Except ε α)

namespace Slot

/-- What is seen of an attempt in a round. -/
def look (round : Nat) : Slot ε α → Slot ε α
  | awaited attempt =>
      if attempt.completesAt ≤ round then known attempt.outcome else awaited attempt
  | known outcome => known outcome

/-- A look that ends the wait when it sees a failure. -/
def watch (round : Nat) (slot : Slot ε α) : Except ε (Slot ε α) :=
  match slot.look round with
  | known (.error error) => .error error
  | seen => .ok seen

def value? : Slot ε α → Option α
  | known (.ok value) => some value
  | _ => none

end Slot

/-- The last round in which an outcome becomes known. -/
def lastRound (attempts : List (Attempt ε α)) : Nat :=
  attempts.foldr (fun attempt last => max attempt.completesAt last) 0

/-- The rounds until every outcome is known. -/
def rounds (attempts : List (Attempt ε α)) : List Nat := List.range (lastRound attempts + 1)

/-! ## Few attempts -/

/-- One round over all slots, up to the first failure. -/
def watchRound (slots : List (Slot ε α)) (round : Nat) : Except ε (List (Slot ε α)) :=
  slots.mapM (Slot.watch round)

def watchTogether (attempts : List (Attempt ε α)) : Except ε (List α) :=
  ((rounds attempts).foldlM watchRound (attempts.map .awaited)).map (List.filterMap Slot.value?)

/-! ## Many attempts -/

/-- The values that have been handed over, and the slots behind them. -/
structure Queue (ε α : Type) where
  delivered : List α
  slots : List (Slot ε α)

namespace Queue

/-- Hand over the values at the front, up to a slot that is still awaited. -/
def handOver (delivered : List α) : List (Slot ε α) → Except ε (Queue ε α)
  | .known (.ok value) :: rest => handOver (delivered ++ [value]) rest
  | .known (.error error) :: _ => .error error
  | slots => .ok ⟨delivered, slots⟩

/-- One round: look at every slot, then hand over what can be handed over. -/
def advance (queue : Queue ε α) (round : Nat) : Except ε (Queue ε α) :=
  handOver queue.delivered (queue.slots.map (Slot.look round))

end Queue

def takeInOrder (attempts : List (Attempt ε α)) : Except ε (List α) :=
  ((rounds attempts).foldlM Queue.advance ⟨[], attempts.map .awaited⟩).map Queue.delivered

/-! ## Any number of attempts -/

/-- At most this many attempts are watched together. -/
def watchedTogether : Nat := 30

/-- All values in order, or one error. -/
def join (attempts : List (Attempt ε α)) : Except ε (List α) :=
  if attempts.length ≤ watchedTogether then watchTogether attempts else takeInOrder attempts

end Attempt

end DirectiveScan
