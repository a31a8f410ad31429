import DirectiveScan.Proofs.Glob.Literal

namespace DirectiveScan.Glob

/-! What an expansion keeps.

An expansion goes from path to path: to the text of a piece without wildcards, to a point that
a piece asks for, or to a name in a directory. What each of these steps keeps is true of every
path at which the expansion arrives. -/

/-- A property of paths is kept by every step for which the patterns ask. -/
structure Carries (system : FileSystem) (allowed : Pattern → Prop) (kept : Path → Prop) : Prop where
  literal : ∀ pattern name path, allowed pattern → pattern.literal? = some name → kept path →
    kept (step path name)
  point : ∀ pattern name path, allowed pattern → name ∈ pointNames pattern → kept path →
    kept (path.join ⟨name⟩)
  entry : ∀ name path, name ∈ namesIn system path → kept path → kept (step path name)

/-- With a bound, patterns stand for paths with a property below a path with the property. -/
structure ExpandsWithin (system : FileSystem) (needsDirectory : Bool) (allowed : Pattern → Prop)
    (kept : Path → Prop) (bound : Nat) : Prop where
  below : ∀ patterns path found, (∀ pattern ∈ patterns, allowed pattern) → kept path →
    found ∈ expandBelow system needsDirectory bound patterns path → kept found
  onward : ∀ patterns path found, (∀ pattern ∈ patterns, allowed pattern) → kept path →
    found ∈ expandAt system needsDirectory bound patterns path → kept found
  name : ∀ patterns path found, (∀ pattern ∈ patterns, allowed pattern) → kept path →
    found ∈ expandName system needsDirectory bound patterns path → kept found

section

variable {system : FileSystem} {needsDirectory : Bool} {allowed : Pattern → Prop}
  {kept : Path → Prop} {bound : Nat} {patterns : List Pattern} {path found : Path}

theorem kept_of_mem_finish (isKept : kept path)
    (member : found ∈ finish system needsDirectory path) : kept found := by
  rw [finish] at member
  split at member
  · cases member
  · exact List.mem_singleton.mp member ▸ isKept

section

variable (known : ExpandsWithin system needsDirectory allowed kept bound)
  (allows : ∀ pattern ∈ patterns, allowed pattern) (isKept : kept path)

include known allows isKept

theorem kept_of_mem_expandBelow (keeps : Carries system allowed kept)
    (member : found ∈ expandBelow system needsDirectory (bound + 1) patterns path) :
    kept found := by
  cases patterns with
  | nil => exact kept_of_mem_finish isKept member
  | cons pattern rest =>
      rcases List.forall_mem_cons.mp allows with ⟨isAllowed, others⟩
      rw [expandBelow] at member
      split at member
      · next name isLiteral =>
          simp only at member
          split at member
          · exact known.below _ _ _ others (keeps.literal _ _ _ isAllowed isLiteral isKept) member
          · cases member
      · split at member
        · rcases List.mem_append.mp member with atPoint | atName
          · rcases List.mem_flatMap.mp atPoint with ⟨name, isPoint, further⟩
            have next := keeps.point _ _ _ isAllowed (List.mem_reverse.mp isPoint) isKept
            exact known.below _ _ _ others next further
          · rcases List.mem_flatMap.mp atName with ⟨name, isName, further⟩
            exact known.onward _ _ _ allows (keeps.entry _ _ isName isKept) further
        · cases member

theorem kept_of_mem_expandAt
    (member : found ∈ expandAt system needsDirectory (bound + 1) patterns path) :
    kept found := by
  cases patterns with
  | nil => exact kept_of_mem_finish isKept member
  | cons pattern rest =>
      rcases List.forall_mem_cons.mp allows with ⟨isAllowed, others⟩
      have isFurther : ∀ one ∈ rest.dropWhile Pattern.isRecursive, allowed one :=
        fun one inFurther => others one ((List.dropWhile_sublist _).subset inFurther)
      rw [expandAt] at member
      split at member
      · split at member
        · split at member
          · rcases List.mem_cons.mp member with rfl | further
            · exact isKept
            · exact known.below _ _ _ (by simpa using isAllowed) isKept further
          · cases member
        · rcases List.mem_append.mp member with atName | further
          · exact known.name _ _ _ isFurther isKept atName
          · exact known.below _ _ _ (List.forall_mem_cons.mpr ⟨isAllowed, isFurther⟩) isKept further
      · exact known.name _ _ _ allows isKept member

theorem kept_of_mem_expandName
    (member : found ∈ expandName system needsDirectory (bound + 1) patterns path) :
    kept found := by
  cases patterns with
  | nil => exact kept_of_mem_finish isKept member
  | cons pattern rest =>
      have others := (List.forall_mem_cons.mp allows).2
      unfold expandName at member
      split at member
      · cases rest with
        | nil => exact kept_of_mem_finish isKept member
        | cons next further => exact known.below _ _ _ others isKept member
      · cases member

end

theorem expandsWithin (keeps : Carries system allowed kept) (bound : Nat) :
    ExpandsWithin system needsDirectory allowed kept bound := by
  induction bound with
  | zero =>
      refine ⟨fun _ _ _ _ _ member => ?_, fun _ _ _ _ _ member => ?_,
        fun _ _ _ _ _ member => ?_⟩
      · cases member
      · cases member
      · cases member
  | succ bound known =>
      exact ⟨fun _ _ _ allows isKept => kept_of_mem_expandBelow known allows isKept keeps,
        fun _ _ _ => kept_of_mem_expandAt known, fun _ _ _ => kept_of_mem_expandName known⟩

end

/-- What is kept from the start on is true of all paths that a pattern stands for, if its pieces
are allowed. -/
theorem kept_of_mem_expand {system : FileSystem} {allowed : Pattern → Prop} {kept : Path → Prop}
    (keeps : Carries system allowed kept) {pattern found : Path}
    (atStart : kept (if pattern.isAbsolute then ⟨"/"⟩ else current))
    (allows : ∀ piece ∈ pattern.body, ∀ read, Pattern.read piece = .ok read → allowed read)
    {paths : List Path} (succeeds : expand system pattern = .ok paths) (member : found ∈ paths) :
    kept found := by
  rcases exists_of_bind_eq_ok succeeds with ⟨cut, isCut, same⟩
  cases same
  rcases exists_of_bind_eq_ok isCut with ⟨_, _, isRest⟩
  rcases exists_of_bind_eq_ok isRest with ⟨pieces, areRead, same⟩
  cases same
  apply (expandsWithin keeps _).below pieces _ _ ?_ atStart member
  intro one isOne
  rcases exists_of_mem_mapM areRead isOne with ⟨piece, isPiece, isRead⟩
  have inBody : piece ∈ pattern.body := by
    split at isPiece
    · exact List.dropLast_subset _ isPiece
    · exact isPiece
  exact allows piece inBody one isRead

end DirectiveScan.Glob
