import DirectiveScan.Proofs.Path.Absolute

namespace DirectiveScan

/-! Paths that a file requires.

A required text names a path behind its loaders. The path is a way that starts at the
directory of the file, or at the root, and the required path is where the way ends. -/

namespace Path

/-! ## Loaders -/

/-- What a required text names: the part behind its last exclamation mark. -/
def IsTarget (text : String) (target : Path) : Prop :=
  '!' ∉ target.text.toList ∧
    (text = target.text ∨ ∃ loaders, text = loaders ++ "!" ++ target.text)

theorem exists_last_piece (text : String) :
    ∃ front last, Text.pieces '!' text.toList = front ++ [last] ∧
      withoutLoaders text = ⟨String.ofList last⟩ := by
  rcases List.eq_nil_or_concat (Text.pieces '!' text.toList) with none | ⟨front, last, isPieces⟩
  · exact absurd none (Text.pieces_ne_nil _ _)
  · rw [List.concat_eq_append] at isPieces
    refine ⟨front, last, isPieces, ?_⟩
    rw [withoutLoaders, Text.split, isPieces, List.map_append, List.map_singleton,
      List.getLast?_concat, Option.getD_some]

theorem isTarget_withoutLoaders (text : String) : IsTarget text (withoutLoaders text) := by
  rcases exists_last_piece text with ⟨front, last, isPieces, isLast⟩
  have free : '!' ∉ last :=
    Text.not_mem_of_mem_pieces _ text.toList _ (by simp [isPieces])
  rw [isLast, IsTarget, String.toList_ofList]
  refine ⟨free, ?_⟩
  by_cases noLoader : front = []
  · left
    rw [noLoader, List.nil_append] at isPieces
    rw [← Text.eq_of_pieces_eq_singleton _ isPieces, String.ofList_toList]
  · right
    rcases Text.exists_of_pieces_eq_append _ _ isPieces noLoader (by simp)
      with ⟨loaders, rest, isText, _, isRest⟩
    refine ⟨String.ofList loaders, String.toList_injective ?_⟩
    rw [isText, Text.eq_of_pieces_eq_singleton _ isRest]
    simp

theorem withoutLoaders_append (loaders text : String) :
    withoutLoaders (loaders ++ "!" ++ text) = withoutLoaders text := by
  have notEmpty : Text.split '!' text ≠ [] := by simp [Text.split, Text.pieces_ne_nil]
  rw [withoutLoaders, Text.split_append rfl, getLast?_append_of_ne_nil _ notEmpty,
    withoutLoaders, List.getLast?_eq_some_getLast notEmpty, Option.getD_some, Option.getD_some]

/-! ## The directory of a file -/

theorem filter_dropWhile_not_isSignificant (pieces : List String) :
    (pieces.dropWhile fun piece => !isSignificant piece).filter isSignificant =
      pieces.filter isSignificant := by
  induction pieces with
  | nil => rfl
  | cons piece pieces induction =>
      cases counts : isSignificant piece <;> simp [counts, induction]

theorem trimEnd_true (pieces : List String) :
    trimEnd true pieces = (pieces.reverse.dropWhile fun piece => !isSignificant piece).reverse := by
  rw [trimEnd]
  split
  · next none => rw [none]; rfl
  · rfl

theorem filter_trimEnd_true (pieces : List String) :
    (trimEnd true pieces).filter isSignificant = pieces.filter isSignificant := by
  rw [trimEnd_true, List.filter_reverse, filter_dropWhile_not_isSignificant, ← List.filter_reverse,
    List.reverse_reverse]

theorem mem_of_mem_trimEnd_true {piece : String} {pieces : List String}
    (member : piece ∈ trimEnd true pieces) : piece ∈ pieces := by
  rw [trimEnd_true, List.mem_reverse] at member
  exact List.mem_reverse.mp (List.dropWhile_subset _ member)

theorem components_of_isAbsolute {path : Path} (absolute : path.isAbsolute = true) :
    path.components = .root :: (path.body.filter isSignificant).map componentOf := by
  rw [components, absolute]
  rfl

theorem components_ofBody {pieces : List String} (free : ∀ piece ∈ pieces, '/' ∉ piece.toList) :
    (ofBody true pieces).components = .root :: (pieces.filter isSignificant).map componentOf := by
  have absolute : (ofBody true pieces).isAbsolute = true := isAbsolute_directory pieces
  rw [components_of_isAbsolute absolute, body_ofBody free]
  split
  · next none => rw [none]; rfl
  · rfl

theorem isSignificant_of_trimEnd_true {pieces front : List String} {last : String}
    (kept : trimEnd true pieces = front ++ [last]) : isSignificant last = true := by
  have found := head?_dropWhile_not_isSignificant pieces.reverse
  rw [← List.getLast?_reverse, ← trimEnd_true, kept, List.getLast?_concat] at found
  exact List.find?_some found.symm

theorem parent?_of_isAbsolute {file : Path} (absolute : file.isAbsolute = true)
    (notRoot : file.components ≠ [.root]) :
    ∃ folder, file.parent? = some folder ∧ folder.isAbsolute = true ∧
      folder.components = file.components.dropLast := by
  have trimmed : file.trimmedBody = trimEnd true file.body := by rw [trimmedBody, absolute]
  have kept := filter_trimEnd_true file.body
  rw [← trimmed] at kept
  -- What counts in the pieces of the file is what counts up to the last piece that does.
  rw [components_of_isAbsolute absolute, ← kept] at notRoot ⊢
  rcases List.eq_nil_or_concat file.trimmedBody with none | ⟨front, last, isTrimmed⟩
  · rw [none] at notRoot
    exact absurd rfl notRoot
  · rw [List.concat_eq_append] at isTrimmed
    have counts := isSignificant_of_trimEnd_true (trimmed ▸ isTrimmed)
    have free : ∀ piece ∈ trimEnd true front, '/' ∉ piece.toList := by
      intro piece member
      have inTrimmed : piece ∈ file.trimmedBody := by
        rw [isTrimmed]
        exact List.mem_append_left _ (mem_of_mem_trimEnd_true member)
      exact not_mem_of_mem_body (mem_of_mem_trimEnd_true (trimmed ▸ inTrimmed))
    refine ⟨ofBody true (trimEnd true front), ?_, isAbsolute_directory _, ?_⟩
    · simp [parent?, isTrimmed, absolute]
    · rw [components_ofBody free, filter_trimEnd_true, isTrimmed, List.filter_append,
        List.filter_cons_of_pos counts, List.map_append, ← List.cons_append]
      exact List.dropLast_concat.symm

/-! ## Required paths -/

theorem points_not_mem_directory {names : List String}
    (named : ∀ name ∈ names, isName name = true) :
    .current ∉ (directory names).components ∧ .parent ∉ (directory names).components := by
  rw [components_directory named]
  simp

theorem required_eq_directory (workingDirectory : Path) (text : String) {file folder : Path}
    (isFolder : file.parent? = some folder) (absolute : folder.isAbsolute = true) :
    required workingDirectory text file =
      directory ((withoutLoaders text).arrivalFrom folder) := by
  rw [required, isFolder, Option.getD_some]
  cases relative : (withoutLoaders text).isAbsolute with
  | true =>
      rw [join_of_isAbsolute relative,
        absolute_eq_directory workingDirectory (text_ne_of_isAbsolute relative),
        arrivalFrom_of_isAbsolute relative, arrivalFrom_of_isAbsolute relative]
  | false =>
      have notEmpty := text_ne_of_isAbsolute absolute
      rw [absolute_eq_directory workingDirectory (text_join_ne notEmpty relative),
        arrivalFrom_join workingDirectory notEmpty relative, arrivalFrom_of_isAbsolute absolute,
        arrivalFrom, relative]
      rfl

/-- For an absolute file below the root, the required path is absolute and without points. It
is the end of the way that starts at the directory of the file, or at the root, and takes the
turns of the target. Loaders in front of a text change nothing. -/
theorem required_path_in_normal_form (workingDirectory : Path) (text : String) (file : Path)
    (isAbsolute : file.isAbsolute = true) (notRoot : file.components ≠ [.root]) :
    (required workingDirectory text file).isAbsolute = true ∧
    .current ∉ (required workingDirectory text file).components ∧
    .parent ∉ (required workingDirectory text file).components ∧
    (∃ folder target : Path,
      file.parent? = some folder ∧ folder.components = file.components.dropLast ∧
      absolute workingDirectory folder = directory (folder.arrival []) ∧
      IsTarget text target ∧
      required workingDirectory text file =
        directory (target.arrival (if target.isAbsolute then [] else folder.arrival []))) ∧
    ∀ loaders, required workingDirectory (loaders ++ "!" ++ text) file =
      required workingDirectory text file := by
  rcases parent?_of_isAbsolute isAbsolute notRoot
    with ⟨folder, isFolder, folderAbsolute, components⟩
  have reached := required_eq_directory workingDirectory text isFolder folderAbsolute
  have normal : absolute workingDirectory folder = directory (folder.arrival []) := by
    rw [absolute_eq_directory workingDirectory (text_ne_of_isAbsolute folderAbsolute),
      arrivalFrom_of_isAbsolute folderAbsolute]
  have noPoints := points_not_mem_directory (isName_of_mem_arrivalFrom folder (withoutLoaders text))
  rw [← reached] at noPoints
  refine ⟨?_, noPoints.1, noPoints.2, ⟨folder, withoutLoaders text, isFolder, components,
    normal, isTarget_withoutLoaders text, reached⟩, fun loaders => ?_⟩
  · rw [reached]
    exact isAbsolute_directory _
  · rw [required, withoutLoaders_append, required]

/-- Two loaders, an empty piece and a point do not show in the path that a file in a directory
with points requires. -/
theorem shared_template_required :
    let file : Path := ⟨"/app/pets/../cats/cat.js"⟩
    file.isAbsolute = true ∧ file.components ≠ [.root] ∧
      required ⟨"/work"⟩ ("raw!html" ++ "!" ++ "../shared//./x.html") file =
        directory ["app", "shared", "x.html"] := by
  intro file
  have isAbsolute : file.isAbsolute = true := by decide
  have notRoot : file.components ≠ [.root] := by decide
  refine ⟨isAbsolute, notRoot, ?_⟩
  rcases required_path_in_normal_form ⟨"/work"⟩ "../shared//./x.html" file isAbsolute notRoot
    with ⟨_, _, _, ⟨found, target, isParent, _, _, ⟨free, isTarget⟩, reached⟩, loaders⟩
  have isFound : file.parent? = some ⟨"/app/pets/../cats"⟩ := by decide
  rw [isFound, Option.some.injEq] at isParent
  subst isParent
  rw [loaders, reached]
  rcases isTarget with isText | ⟨loaders, isText⟩
  · have isNamed : target = ⟨"../shared//./x.html"⟩ := congrArg Path.mk isText.symm
    rw [isNamed]
    decide
  · have noMark : '!' ∉ "../shared//./x.html".toList := by decide
    rw [isText] at noMark
    simp at noMark

end Path

end DirectiveScan
