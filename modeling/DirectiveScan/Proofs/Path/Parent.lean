import DirectiveScan.Proofs.Path.Required

namespace DirectiveScan

/-! The last piece of a path.

What a path is called and where it stands are read off its pieces up to the last one that
counts. A path that is built from such pieces is read as those pieces again. -/

namespace Path

variable {isAbsolute : Bool} {front pieces : List String} {last : String}

/-! ## Pieces that do not count -/

theorem trimEnd_eq (isAbsolute : Bool) (pieces : List String) :
    trimEnd isAbsolute pieces =
      if trimEnd true pieces = [] ∧ isAbsolute = false ∧ pieces.head? = some "." then ["."]
      else trimEnd true pieces := by
  rw [trimEnd_true, trimEnd]
  split
  · next none =>
      rw [none]
      cases isAbsolute <;> simp
  · next kept notEmpty => rw [if_neg fun point => notEmpty point.1]

theorem filter_trimEnd (isAbsolute : Bool) (pieces : List String) :
    (trimEnd isAbsolute pieces).filter isSignificant = pieces.filter isSignificant := by
  rw [← filter_trimEnd_true pieces, trimEnd_eq]
  split
  · next point =>
      rw [point.1]
      rfl
  · rfl

theorem trimEnd_concat (counts : isSignificant last = true) :
    trimEnd isAbsolute (front ++ [last]) = front ++ [last] := by
  have kept : trimEnd true (front ++ [last]) = front ++ [last] := by
    simp [trimEnd_true, counts]
  rw [trimEnd_eq, kept, if_neg (by simp)]

theorem trimEnd_true_prefix (pieces : List String) : trimEnd true pieces <+: pieces := by
  have behind := List.dropWhile_suffix (fun piece => !isSignificant piece) (l := pieces.reverse)
  rw [trimEnd_true, ← List.reverse_suffix, List.reverse_reverse]
  exact behind

/-- The last piece that is kept counts, unless it is the point that a relative path starts
with. -/
theorem significant_or_point (kept : trimEnd isAbsolute pieces = front ++ [last]) :
    (isSignificant last = true ∧ front ++ [last] <+: pieces) ∨
      (isAbsolute = false ∧ front = [] ∧ last = "." ∧ pieces.filter isSignificant = [] ∧
        pieces.head? = some ".") := by
  rw [trimEnd_eq] at kept
  split at kept
  · next point =>
      have single : [] ++ ["."] = front ++ [last] := kept
      rcases List.append_inj' single rfl with ⟨noFront, isLast⟩
      refine .inr ⟨point.2.1, noFront.symm, (List.singleton_inj.mp isLast).symm, ?_, point.2.2⟩
      rw [← filter_trimEnd_true pieces, point.1]
      rfl
  · exact .inl ⟨isSignificant_of_trimEnd_true kept, kept ▸ trimEnd_true_prefix pieces⟩

/-! ## Names and parents -/

section

variable {path : Path}

theorem parent?_of_nil (trimmed : path.trimmedBody = []) : path.parent? = none := by
  rw [parent?, trimmed]
  rfl

theorem parent?_of_concat (trimmed : path.trimmedBody = front ++ [last]) :
    path.parent? = some (ofBody path.isAbsolute (trimEnd path.isAbsolute front)) := by
  simp [parent?, trimmed]

theorem fileName?_of_concat (trimmed : path.trimmedBody = front ++ [last]) :
    path.fileName? = if last = ".." ∨ last = "." then none else some last := by
  rw [fileName?, trimmed, List.getLast?_concat]
  simp

theorem exists_front_of_fileName? {name : String} (isNamed : path.fileName? = some name) :
    ∃ front, path.trimmedBody = front ++ [name] ∧ front ++ [name] <+: path.body ∧
      isName name = true := by
  rcases List.eq_nil_or_concat path.trimmedBody with none | ⟨front, last, trimmed⟩
  · rw [fileName?, none] at isNamed
    cases isNamed
  · rw [List.concat_eq_append] at trimmed
    rw [fileName?_of_concat trimmed] at isNamed
    split at isNamed
    · cases isNamed
    · next noPoints =>
        cases isNamed
        rcases significant_or_point trimmed with ⟨counts, isPrefix⟩ | ⟨_, _, isPoint, _⟩
        · have member : name ∈ path.body := isPrefix.subset (by simp)
          have free := not_mem_of_mem_body member
          refine ⟨front, trimmed, isPrefix, ?_⟩
          simp_all [isName]
        · exact absurd (.inr isPoint) noPoints

theorem components_eq_trimmedBody (path : Path) :
    path.components =
      (if path.isAbsolute then [.root]
        else if path.body.head? = some "." then [.current] else []) ++
      (path.trimmedBody.filter isSignificant).map componentOf := by
  rw [trimmedBody, filter_trimEnd, components]

end

/-! ## Built paths -/

/-- Pieces that do not start with an empty one are the pieces of the path that is built from
them. -/
theorem body_ofBody_false {piece : String}
    (free : ∀ one ∈ piece :: pieces, '/' ∉ one.toList) (notEmpty : piece ≠ "") :
    (ofBody false (piece :: pieces)).isAbsolute = false ∧
      (ofBody false (piece :: pieces)).body = piece :: pieces := by
  have cut := pieces_intercalate free
  have text : (ofBody false (piece :: pieces)).text = "/".intercalate (piece :: pieces) := by
    simp [ofBody]
  have relative : (ofBody false (piece :: pieces)).isAbsolute = false := by
    cases starts : (ofBody false (piece :: pieces)).isAbsolute with
    | false => rfl
    | true =>
        rw [isAbsolute_iff, text] at starts
        rcases List.head?_eq_some_iff.mp starts with ⟨rest, characters⟩
        rw [characters, Text.pieces, if_pos rfl, List.map_cons, List.cons.injEq] at cut
        exact absurd (String.toList_injective cut.1.symm) notEmpty
  refine ⟨relative, ?_⟩
  rw [body_of_relative relative, text, Text.split, cut]
  simp [List.map_map, Function.comp_def]

theorem trimmedBody_ofBody (counts : isSignificant last = true)
    (free : ∀ piece ∈ front ++ [last], '/' ∉ piece.toList)
    (starts : isAbsolute = false → (front ++ [last]).head? ≠ some "") :
    (ofBody isAbsolute (front ++ [last])).isAbsolute = isAbsolute ∧
      (ofBody isAbsolute (front ++ [last])).trimmedBody = front ++ [last] := by
  have read : (ofBody isAbsolute (front ++ [last])).isAbsolute = isAbsolute ∧
      (ofBody isAbsolute (front ++ [last])).body = front ++ [last] := by
    cases isAbsolute with
    | true =>
        refine ⟨isAbsolute_directory _, ?_⟩
        rw [body_ofBody free, if_neg (by simp)]
    | false =>
        cases isPieces : front ++ [last] with
        | nil => simp at isPieces
        | cons piece pieces =>
            have notEmpty : piece ≠ "" := by
              rintro rfl
              exact starts rfl (by rw [isPieces]; rfl)
            rw [isPieces] at free
            exact body_ofBody_false free notEmpty
  exact ⟨read.1, by rw [trimmedBody, read.2, trimEnd_concat counts]⟩

end Path

end DirectiveScan
