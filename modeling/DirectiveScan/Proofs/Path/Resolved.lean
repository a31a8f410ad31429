import DirectiveScan.Proofs.Path.Parent

namespace DirectiveScan

/-! Paths that are resolved, and those that are not.

Only the empty path has no absolute form. A required path is empty where nothing is required
behind the loaders and the requiring file does not stand in a directory that its path names. -/

namespace Path

theorem text_ofBody_ne {front : List String} {last : String} (notEmpty : last ≠ "") :
    (ofBody false (front ++ [last])).text ≠ "" := by
  have text : (ofBody false (front ++ [last])).text = "/".intercalate (front ++ [last]) := by
    simp [ofBody]
  rw [text]
  rcases front with _ | ⟨piece, front⟩
  · simpa using notEmpty
  · intro empty
    cases behind : front ++ [last] with
    | nil => simp at behind
    | cons next pieces =>
        rw [List.cons_append, behind, String.intercalate_cons_cons] at empty
        simp at empty

theorem text_ofBody_trimEnd_eq_empty_iff (pieces : List String) :
    (ofBody false (trimEnd false pieces)).text = "" ↔
      pieces.filter isSignificant = [] ∧ pieces.head? ≠ some "." := by
  rcases List.eq_nil_or_concat (trimEnd false pieces) with none | ⟨front, last, kept⟩
  · have nothingCounts := filter_trimEnd false pieces
    rw [none] at nothingCounts
    refine iff_of_true (by rw [none]; rfl) ⟨nothingCounts.symm, fun point => ?_⟩
    have allSkipped : trimEnd true pieces = [] := by
      rw [trimEnd_eq] at none
      split at none
      · cases none
      · exact none
    rw [trimEnd_eq, if_pos ⟨allSkipped, rfl, point⟩] at none
    cases none
  · rw [List.concat_eq_append] at kept
    have notEmpty : last ≠ "" := by
      rintro rfl
      rcases significant_or_point kept with ⟨counts, _⟩ | ⟨_, _, isPoint, _⟩
      · cases counts
      · exact absurd isPoint (by decide)
    refine iff_of_false (kept ▸ text_ofBody_ne notEmpty) fun ⟨nothingCounts, noPoint⟩ => ?_
    rcases significant_or_point kept with ⟨counts, _⟩ | ⟨_, _, _, _, point⟩
    · rw [← filter_trimEnd false, kept, List.filter_append] at nothingCounts
      simp [counts] at nothingCounts
    · exact noPoint point

/-- The directory of a file has no name where the path of the file has at most one
component. -/
theorem text_parent_eq_empty_iff (file : Path) :
    (file.parent?.getD ⟨""⟩).text = "" ↔ file.components.length ≤ 1 := by
  rw [components_eq_trimmedBody]
  rcases List.eq_nil_or_concat file.trimmedBody with none | ⟨front, last, trimmed⟩
  · rw [parent?_of_nil none, none]
    refine iff_of_true rfl ?_
    cases file.isAbsolute <;> simp [apply_ite List.length]
    split <;> simp
  · rw [List.concat_eq_append] at trimmed
    rw [parent?_of_concat trimmed, Option.getD_some, trimmed]
    rcases significant_or_point trimmed with ⟨counts, isPrefix⟩ | ⟨relative, rfl, rfl, _, point⟩
    · rw [List.filter_append, List.filter_cons_of_pos counts]
      cases absolute : file.isAbsolute with
      | true =>
          refine iff_of_false (text_directory_ne _) ?_
          simp
      | false =>
          have notPoint : last ≠ "." := by
            rintro rfl
            cases counts
          have sameHead : file.body.head? = some "." ↔ front.head? = some "." := by
            rcases isPrefix with ⟨rest, isBody⟩
            rw [← isBody]
            cases front with
            | nil => simp [notPoint]
            | cons piece front => rfl
          rw [text_ofBody_trimEnd_eq_empty_iff, Ne, ← sameHead]
          by_cases point : file.body.head? = some "." <;> simp [point]
    · rw [relative, point]
      decide

theorem absolute_isAbsolute_iff (workingDirectory path : Path) :
    (absolute workingDirectory path).isAbsolute = true ↔ path.text ≠ "" := by
  constructor
  · intro isAbsolute empty
    rw [absolute_of_empty workingDirectory empty] at isAbsolute
    exact text_ne_of_isAbsolute isAbsolute empty
  · exact fun notEmpty => absolute_isAbsolute notEmpty workingDirectory

theorem text_join_eq_empty_iff (path further : Path) :
    (path.join further).text = "" ↔ path.text = "" ∧ further.text = "" := by
  by_cases empty : path.text = ""
  · rw [join_of_empty empty]
    simp [empty]
  · refine iff_of_false (fun joined => ?_) fun both => empty both.1
    cases relative : further.isAbsolute with
    | true =>
        rw [join_of_isAbsolute relative] at joined
        exact text_ne_of_isAbsolute relative joined
    | false => exact text_join_ne empty relative joined

theorem withoutLoaders_eq_iff (text : String) (target : Path) :
    withoutLoaders text = target ↔ IsTarget text target := by
  constructor
  · rintro rfl
    exact isTarget_withoutLoaders text
  · rintro ⟨free, rfl | ⟨loaders, rfl⟩⟩
    · rw [withoutLoaders, Text.split_of_not_mem free]
      rfl
    · rw [withoutLoaders_append, withoutLoaders, Text.split_of_not_mem free]
      rfl

/-- Only the empty path is not made absolute, and stays empty. A required path is absolute
unless nothing is required behind the loaders by a file with at most one component, such as a
bare file name or the root; the required path is empty then. -/
theorem resolved_unless_nothing_named (workingDirectory : Path) :
    (∀ path, (absolute workingDirectory path).isAbsolute = true ↔ path ≠ ⟨""⟩) ∧
    absolute workingDirectory ⟨""⟩ = ⟨""⟩ ∧
    (∀ text file, (required workingDirectory text file).isAbsolute = true ↔
      ¬(IsTarget text ⟨""⟩ ∧ file.components.length ≤ 1)) ∧
    ∀ text file, required workingDirectory text file = ⟨""⟩ ↔
      IsTarget text ⟨""⟩ ∧ file.components.length ≤ 1 := by
  have isEmpty_iff (path : Path) : path.text = "" ↔ path = ⟨""⟩ := by
    cases path
    simp
  -- The path that is made absolute for a required text.
  have nothing_iff (text : String) (file : Path) :
      ((file.parent?.getD ⟨""⟩).join (withoutLoaders text)).text = "" ↔
        IsTarget text ⟨""⟩ ∧ file.components.length ≤ 1 := by
    rw [text_join_eq_empty_iff, text_parent_eq_empty_iff, isEmpty_iff, withoutLoaders_eq_iff,
      and_comm]
  refine ⟨fun path => ?_, rfl, fun text file => ?_, fun text file => ?_⟩
  · rw [absolute_isAbsolute_iff, Ne, isEmpty_iff]
  · rw [required, absolute_isAbsolute_iff, Ne, nothing_iff]
  · rw [← nothing_iff, required]
    constructor
    · intro unresolved
      refine Decidable.byContradiction fun notEmpty => ?_
      have isAbsolute := absolute_isAbsolute notEmpty workingDirectory
      rw [unresolved] at isAbsolute
      cases isAbsolute
    · intro empty
      rw [absolute_of_empty workingDirectory empty]
      exact (isEmpty_iff _).mp empty

/-- A loader without a target in a file without directory, and the empty path, are not
resolved. -/
theorem bare_loader_unresolved :
    (required ⟨"/work"⟩ "raw!" ⟨"a.js"⟩).isAbsolute = false ∧
      (absolute ⟨"/work"⟩ ⟨""⟩).isAbsolute = false := by
  decide

end Path

end DirectiveScan
