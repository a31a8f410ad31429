import DirectiveScan.Glob.Expand
import Mathlib.Data.List.Basic

namespace DirectiveScan.Glob

/-! The bound of an expansion.

An expansion goes on to the next piece or further down. Where no way down is longer than
some number of names, a bound that allows for this many steps for every piece is enough,
and every larger bound gives the same paths. -/

/-- From an absolute path, every step joins a name. -/
theorem step_of_isAbsolute {path : Path} (absolute : path.isAbsolute = true) (name : String) :
    step path name = path.join ⟨name⟩ := by
  have elsewhere : path.same current = false := by
    rw [Path.same, decide_eq_false_iff_not, Path.components, if_pos absolute]
    rintro ⟨⟩
  rw [step, elsewhere, if_neg Bool.false_ne_true]

/-- Whether no way down from a path has more names than a number. -/
def Shallow (system : FileSystem) : Nat → Path → Prop
  | 0, path => system.isListable path = false
  | depth + 1, path => system.isListable path = true →
      ∀ name ∈ namesIn system path, Shallow system depth (step path name)

theorem Shallow.of_not_listable {system : FileSystem} {path : Path}
    (notListable : system.isListable path = false) (depth : Nat) :
    Shallow system depth path := by
  cases depth with
  | zero => exact notListable
  | succ depth =>
      intro isListable
      cases notListable.symm.trans isListable

/-- Whether a piece leads neither up nor over a slash. -/
structure Pattern.IsLevel (pattern : Pattern) : Prop where
  literal : ∀ name, pattern.literal? = some name → '/' ∉ name.toList ∧ name ≠ ".."
  points : ".." ∉ pointNames pattern

theorem eq_point {pattern : Pattern} (level : pattern.IsLevel) {name : String}
    (member : name ∈ pointNames pattern) : name = "." := by
  have isPoint : name = "." ∨ name = ".." := by
    rw [pointNames] at member
    split at member
    · simpa using (List.mem_filter.mp member).1
    · cases member
  rcases isPoint with same | rfl
  · exact same
  · exact absurd member level.points

/-- Paths from which every way down is short. -/
structure Region (system : FileSystem) (depth : Nat) (region : Path → Prop) : Prop where
  shallow : ∀ path, region path → Shallow system depth path
  names : ∀ path, region path → system.isListable path = true →
    ∀ name ∈ namesIn system path, region (step path name)
  pieces : ∀ path, region path → ∀ piece : String, '/' ∉ piece.toList → piece ≠ ".." →
    region (step path piece)
  points : ∀ path, region path → region (path.join ⟨"."⟩)

/-- How many steps are left for pieces from a path that is so deep. -/
def steps (depth : Nat) (patterns : List Pattern) (left : Nat) : Nat :=
  3 * (patterns.length * (depth + 1) + left)

section

variable {system : FileSystem} {needsDirectory : Bool} {depth : Nat} {region : Path → Prop}

/-- The bounds of the three kinds of steps can be changed where they are large enough. -/
structure Stable (system : FileSystem) (needsDirectory : Bool) (depth : Nat)
    (region : Path → Prop) (bound : Nat) : Prop where
  below : ∀ other patterns path left, (∀ pattern ∈ patterns, pattern.IsLevel) → region path →
    Shallow system left path → left ≤ depth → steps depth patterns left + 1 ≤ bound →
    steps depth patterns left + 1 ≤ other →
    expandBelow system needsDirectory bound patterns path =
      expandBelow system needsDirectory other patterns path
  at_ : ∀ other pattern rest path left, (∀ one ∈ pattern :: rest, one.IsLevel) →
    region path → Shallow system left path → left ≤ depth →
    steps depth (pattern :: rest) left + 3 ≤ bound →
    steps depth (pattern :: rest) left + 3 ≤ other →
    expandAt system needsDirectory bound (pattern :: rest) path =
      expandAt system needsDirectory other (pattern :: rest) path
  name : ∀ other pattern rest path left, (∀ one ∈ pattern :: rest, one.IsLevel) →
    region path → Shallow system left path → left ≤ depth →
    steps depth (pattern :: rest) left ≤ bound → steps depth (pattern :: rest) left ≤ other →
    expandName system needsDirectory bound (pattern :: rest) path =
      expandName system needsDirectory other (pattern :: rest) path

theorem steps_cons (depth : Nat) (pattern : Pattern) (rest : List Pattern) (left : Nat) :
    steps depth (pattern :: rest) left = steps depth rest left + 3 * (depth + 1) := by
  rw [steps, steps, List.length_cons, Nat.add_mul]
  omega

theorem steps_le {depth left : Nat} {patterns others : List Pattern}
    (shorter : patterns.length ≤ others.length) :
    steps depth patterns left ≤ steps depth others left := by
  have := Nat.mul_le_mul_right (depth + 1) shorter
  rw [steps, steps]
  omega

theorem steps_add (depth : Nat) (patterns : List Pattern) (left : Nat) :
    steps depth patterns left = steps depth patterns 0 + 3 * left := by
  rw [steps, steps]
  omega

theorem expandBelow_succ_eq (isRegion : Region system depth region) {bound : Nat}
    (stable : Stable system needsDirectory depth region bound) {other : Nat}
    {patterns : List Pattern} {path : Path} {left : Nat}
    (level : ∀ pattern ∈ patterns, pattern.IsLevel) (inRegion : region path)
    (shallow : Shallow system left path) (short : left ≤ depth)
    (enough : steps depth patterns left ≤ bound) (otherEnough : steps depth patterns left ≤ other) :
    expandBelow system needsDirectory (bound + 1) patterns path =
      expandBelow system needsDirectory (other + 1) patterns path := by
  cases patterns with
  | nil => rfl
  | cons pattern rest =>
      have restLevel : ∀ one ∈ rest, one.IsLevel :=
        fun one member => level one (List.mem_cons_of_mem _ member)
      have isLevel := level pattern List.mem_cons_self
      -- A literal piece or a point leaves room for any depth.
      have onward {next : Path} (joined : region next) :
          expandBelow system needsDirectory bound rest next =
            expandBelow system needsDirectory other rest next := by
        have whole := steps_cons depth pattern rest left
        have room := steps_add depth rest left
        have deepest := steps_add depth rest depth
        exact stable.below other rest _ depth restLevel joined (isRegion.shallow _ joined)
          (Nat.le_refl depth) (by omega) (by omega)
      rw [expandBelow, expandBelow]
      cases literal : pattern.literal? with
      | some name =>
          have ⟨free, notUp⟩ := isLevel.literal name literal
          simp only
          rw [onward (isRegion.pieces path inRegion name free notUp)]
      | none =>
          simp only
          cases isListable : system.isListable path with
          | false => rfl
          | true =>
              cases left with
              | zero => cases isListable.symm.trans shallow
              | succ left =>
                  have whole := steps_add depth (pattern :: rest) (left + 1)
                  have inside := steps_add depth (pattern :: rest) left
                  simp only [if_true]
                  congr 1
                  · apply List.flatMap_congr
                    intro name member
                    rw [eq_point isLevel (List.mem_reverse.mp member)]
                    exact onward (isRegion.points path inRegion)
                  · apply List.flatMap_congr
                    intro name member
                    exact stable.at_ other pattern rest _ left level
                      (isRegion.names path inRegion isListable name member)
                      (shallow isListable name member) (by omega) (by omega) (by omega)

theorem expandName_succ_eq {bound : Nat}
    (stable : Stable system needsDirectory depth region bound) {other : Nat}
    {pattern : Pattern} {rest : List Pattern} {path : Path} {left : Nat}
    (level : ∀ one ∈ pattern :: rest, one.IsLevel) (inRegion : region path)
    (shallow : Shallow system left path) (short : left ≤ depth)
    (enough : steps depth (pattern :: rest) left ≤ bound + 1)
    (otherEnough : steps depth (pattern :: rest) left ≤ other + 1) :
    expandName system needsDirectory (bound + 1) (pattern :: rest) path =
      expandName system needsDirectory (other + 1) (pattern :: rest) path := by
  have whole := steps_cons depth pattern rest left
  cases rest with
  | nil => rfl
  | cons next others =>
      have onward := stable.below other (next :: others) path left
        (fun one member => level one (List.mem_cons_of_mem _ member)) inRegion shallow short
        (by omega) (by omega)
      unfold expandName
      simp only [onward]

theorem expandAt_succ_eq {bound : Nat}
    (stable : Stable system needsDirectory depth region bound) {other : Nat}
    {pattern : Pattern} {rest : List Pattern} {path : Path} {left : Nat}
    (level : ∀ one ∈ pattern :: rest, one.IsLevel) (inRegion : region path)
    (shallow : Shallow system left path) (short : left ≤ depth)
    (enough : steps depth (pattern :: rest) left + 3 ≤ bound + 1)
    (otherEnough : steps depth (pattern :: rest) left + 3 ≤ other + 1) :
    expandAt system needsDirectory (bound + 1) (pattern :: rest) path =
      expandAt system needsDirectory (other + 1) (pattern :: rest) path := by
  have isLevel := level pattern List.mem_cons_self
  have fewer := (List.dropWhile_sublist Pattern.isRecursive (l := rest)).length_le
  have furtherLevel : ∀ one ∈ rest.dropWhile Pattern.isRecursive, one.IsLevel := fun one member =>
    level one (List.mem_cons_of_mem _ ((List.dropWhile_sublist _).subset member))
  rw [expandAt, expandAt]
  split
  · cases further : rest.dropWhile Pattern.isRecursive with
    | nil =>
        have alone : steps depth [pattern] left ≤ steps depth (pattern :: rest) left :=
          steps_le (by simp)
        simp only
        rw [stable.below other [pattern] path left (by simpa using isLevel) inRegion shallow short
          (by omega) (by omega)]
    | cons next others =>
        rw [further] at fewer furtherLevel
        have behind : steps depth (next :: others) left ≤ steps depth (pattern :: rest) left :=
          steps_le (by simp at fewer ⊢; omega)
        have again : steps depth (pattern :: next :: others) left ≤
            steps depth (pattern :: rest) left := steps_le (by simp at fewer ⊢; omega)
        simp only
        rw [stable.name other next others path left furtherLevel inRegion shallow short
            (by omega) (by omega),
          stable.below other (pattern :: next :: others) path left
            (List.forall_mem_cons.mpr ⟨isLevel, furtherLevel⟩) inRegion shallow short
            (by omega) (by omega)]
  · exact stable.name other pattern rest path left level inRegion shallow short
      (by omega) (by omega)

/-- In a region, every bound is stable. -/
theorem stable (isRegion : Region system depth region) (bound : Nat) :
    Stable system needsDirectory depth region bound := by
  induction bound with
  | zero =>
      refine ⟨fun _ _ _ _ _ _ _ _ enough _ => by omega,
        fun _ _ _ _ _ _ _ _ _ enough _ => by omega,
        fun other pattern rest path left _ _ _ _ enough _ => ?_⟩
      rw [steps_cons] at enough
      omega
  | succ bound induction =>
      refine ⟨fun other patterns path left level inRegion shallow short enough otherEnough => ?_,
        fun other pattern rest path left level inRegion shallow short enough otherEnough => ?_,
        fun other pattern rest path left level inRegion shallow short enough otherEnough => ?_⟩
      · cases other with
        | zero => omega
        | succ other =>
            exact expandBelow_succ_eq isRegion induction level inRegion shallow short
              (by omega) (by omega)
      · cases other with
        | zero => omega
        | succ other =>
            exact expandAt_succ_eq induction level inRegion shallow short enough otherEnough
      · cases other with
        | zero =>
            rw [steps_cons] at otherEnough
            omega
        | succ other =>
            exact expandName_succ_eq induction level inRegion shallow short enough otherEnough

end

end DirectiveScan.Glob
