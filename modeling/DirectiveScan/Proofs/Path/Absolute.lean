import DirectiveScan.Path.Absolute
import DirectiveScan.Proofs.Path.Join

namespace DirectiveScan

/-! Absolute paths, reached in one step or in several.

The pieces of a path are turns on a way that starts at a directory. The absolute form of a
path is the directory at the end of the way from the root, or from the working directory.
Since joined paths are ways that follow each other, an absolute form on the way does not
change where it ends. -/

namespace Path

/-! ## Ways -/

/-- Where a piece leads from the directory with the given names. -/
def turn (names : List String) (piece : String) : List String :=
  if piece = "" ∨ piece = "." then names
  else if piece = ".." then names.dropLast
  else names ++ [piece]

/-- Where the pieces of a path lead from the directory with the given names. -/
def arrival (path : Path) (names : List String) : List String :=
  (Text.split '/' path.text).foldl turn names

/-- Where a path leads for a program that runs in a working directory. -/
def arrivalFrom (path workingDirectory : Path) : List String :=
  path.arrival (if path.isAbsolute then [] else workingDirectory.arrival [])

theorem isSignificant_iff (piece : String) :
    isSignificant piece = true ↔ ¬(piece = "" ∨ piece = ".") := by
  simp [isSignificant]

theorem turn_of_isName {names : List String} {piece : String} (named : isName piece = true) :
    turn names piece = names ++ [piece] := by
  rw [turn, if_neg ((isSignificant_iff piece).mp (isSignificant_of_isName named)),
    if_neg (ne_parent_of_isName named)]

theorem foldl_turn_names {names : List String} (named : ∀ name ∈ names, isName name = true)
    (start : List String) : names.foldl turn start = start ++ names := by
  induction names generalizing start with
  | nil => simp
  | cons name names induction =>
      have others : ∀ one ∈ names, isName one = true :=
        fun one member => named one (List.mem_cons_of_mem _ member)
      rw [List.foldl_cons, turn_of_isName (named name List.mem_cons_self), induction others]
      simp

/-- A turn keeps names names, whatever the piece is. -/
theorem isName_of_mem_turn {names : List String} {piece : String} (free : '/' ∉ piece.toList)
    (named : ∀ name ∈ names, isName name = true) :
    ∀ name ∈ turn names piece, isName name = true := by
  intro name member
  rw [turn] at member
  split at member
  · exact named name member
  · next counts =>
      split at member
      · exact named name (List.dropLast_subset names member)
      · next notParent =>
          rcases List.mem_append.mp member with above | isPiece
          · exact named name above
          · rw [List.mem_singleton.mp isPiece, isName, (isSignificant_iff piece).mpr counts]
            simp [notParent, free]

theorem isName_of_mem_foldl_turn {pieces names : List String}
    (free : ∀ piece ∈ pieces, '/' ∉ piece.toList) (named : ∀ name ∈ names, isName name = true) :
    ∀ name ∈ pieces.foldl turn names, isName name = true := by
  induction pieces generalizing names with
  | nil => exact named
  | cons piece pieces induction =>
      exact induction (fun one member => free one (List.mem_cons_of_mem _ member))
        (isName_of_mem_turn (free piece List.mem_cons_self) named)

theorem isName_of_mem_arrival (path : Path) {names : List String}
    (named : ∀ name ∈ names, isName name = true) :
    ∀ name ∈ path.arrival names, isName name = true := by
  refine isName_of_mem_foldl_turn (fun piece member => ?_) named
  rcases List.mem_map.mp member with ⟨characters, isPiece, rfl⟩
  rw [String.toList_ofList]
  exact Text.not_mem_of_mem_pieces _ _ _ isPiece

theorem isName_of_mem_arrivalFrom (workingDirectory path : Path) :
    ∀ name ∈ path.arrivalFrom workingDirectory, isName name = true := by
  refine isName_of_mem_arrival path fun name member => ?_
  split at member
  · cases member
  · exact isName_of_mem_arrival workingDirectory (by simp) name member

/-! ## Components as turns -/

/-- On a stack, the innermost name stands first. -/
theorem reverse_collapse (stack : List String) {piece : String}
    (counts : isSignificant piece = true) :
    (collapse stack (componentOf piece)).reverse = turn stack.reverse piece := by
  rw [turn, if_neg ((isSignificant_iff piece).mp counts), componentOf]
  split
  · rw [collapse, List.dropLast_reverse]
  · rw [collapse, List.reverse_cons]

theorem reverse_foldl_collapse (pieces stack : List String) :
    (((pieces.filter isSignificant).map componentOf).foldl collapse stack).reverse =
      pieces.foldl turn stack.reverse := by
  induction pieces generalizing stack with
  | nil => rfl
  | cons piece pieces induction =>
      by_cases counts : isSignificant piece = true
      · rw [List.filter_cons_of_pos counts, List.map_cons, List.foldl_cons, induction,
          reverse_collapse stack counts, List.foldl_cons]
      · have skipped : turn stack.reverse piece = stack.reverse :=
          if_pos (Decidable.of_not_not (mt (isSignificant_iff piece).mpr counts))
        rw [List.filter_cons_of_neg counts, induction, List.foldl_cons, skipped]

/-- The empty piece in front of the root leads nowhere. -/
theorem foldl_turn_body (path : Path) (names : List String) :
    path.body.foldl turn names = path.arrival names := by
  cases absolute : path.isAbsolute with
  | false => rw [body_of_relative absolute, arrival]
  | true =>
      rcases List.head?_eq_some_iff.mp ((isAbsolute_iff path).mp absolute) with ⟨rest, starts⟩
      rw [body, absolute, arrival, Text.split, starts, Text.pieces, if_pos rfl]
      rfl

theorem reverse_foldl_components (path : Path) (stack : List String) :
    (path.components.foldl collapse stack).reverse =
      path.arrival (if path.isAbsolute then [] else stack.reverse) := by
  rw [components, List.foldl_append, reverse_foldl_collapse, foldl_turn_body]
  cases path.isAbsolute with
  | true => rfl
  | false =>
      simp only [Bool.false_eq_true, if_false]
      split <;> rfl

theorem absolute_eq_directory (workingDirectory : Path) {path : Path}
    (notEmpty : path.text ≠ "") :
    absolute workingDirectory path = directory (path.arrivalFrom workingDirectory) := by
  have start : (workingDirectory.components.foldl collapse []).reverse =
      workingDirectory.arrival [] := by
    rw [reverse_foldl_components, List.reverse_nil, ite_self]
  rw [absolute, if_neg notEmpty, ofStack, directory, reverse_foldl_components, arrivalFrom]
  cases path.isAbsolute with
  | true => rfl
  | false => simp only [Bool.false_eq_true, if_false, start]

/-! ## Ways that follow each other -/

theorem arrival_directory {names : List String} (named : ∀ name ∈ names, isName name = true)
    (start : List String) : (directory names).arrival start = start ++ names := by
  rw [← foldl_turn_body, body_directory named]
  split
  · next none => simp [none, turn]
  · exact foldl_turn_names named start

theorem join_of_isAbsolute {path further : Path} (absolute : further.isAbsolute = true) :
    path.join further = further := by
  rw [join, if_pos (by simp [absolute])]

theorem arrival_join (path : Path) {further : Path} (relative : further.isAbsolute = false)
    (names : List String) :
    (path.join further).arrival names = further.arrival (path.arrival names) := by
  rcases exists_front_split path with ⟨front, isFront, joined⟩
  have reached : path.arrival names = front.foldl turn names := by
    rcases isFront with same | ended
    · rw [arrival, same]
    · -- The empty piece behind a last slash leads nowhere.
      rw [arrival, ended, List.foldl_append]
      rfl
  rw [reached, arrival, joined further relative, List.foldl_append, arrival]

theorem join_isAbsolute {path : Path} (absolute : path.isAbsolute = true) (further : Path) :
    (path.join further).isAbsolute = true := by
  cases relative : further.isAbsolute with
  | true => rw [join_of_isAbsolute relative, relative]
  | false => rw [isAbsolute_join_eq (text_ne_of_isAbsolute absolute) relative, absolute]

theorem arrivalFrom_of_isAbsolute {path workingDirectory : Path}
    (absolute : path.isAbsolute = true) : path.arrivalFrom workingDirectory = path.arrival [] := by
  rw [arrivalFrom, if_pos absolute]

theorem arrivalFrom_join (workingDirectory : Path) {path further : Path}
    (notEmpty : path.text ≠ "") (relative : further.isAbsolute = false) :
    (path.join further).arrivalFrom workingDirectory =
      further.arrival (path.arrivalFrom workingDirectory) := by
  rw [arrivalFrom, arrival_join path relative, isAbsolute_join_eq notEmpty relative, arrivalFrom]

theorem arrivalFrom_directory (workingDirectory : Path) {names : List String}
    (named : ∀ name ∈ names, isName name = true) :
    (directory names).arrivalFrom workingDirectory = names := by
  rw [arrivalFrom_of_isAbsolute (isAbsolute_directory names), arrival_directory named,
    List.nil_append]

/-! ## Absolute forms -/

theorem absolute_of_empty (workingDirectory : Path) {path : Path} (empty : path.text = "") :
    absolute workingDirectory path = path := by
  rw [absolute, if_pos empty]

theorem absolute_isAbsolute {path : Path} (notEmpty : path.text ≠ "") (workingDirectory : Path) :
    (absolute workingDirectory path).isAbsolute = true := by
  rw [absolute_eq_directory workingDirectory notEmpty]
  exact isAbsolute_directory _

/-- The working directory does not matter for an absolute path. -/
theorem absolute_of_isAbsolute {path : Path} (isAbsolute : path.isAbsolute = true)
    (left right : Path) : absolute left path = absolute right path := by
  rw [absolute, absolute, isAbsolute]
  rfl

theorem absolute_absolute (workingDirectory path : Path) :
    absolute workingDirectory (absolute workingDirectory path) =
      absolute workingDirectory path := by
  by_cases empty : path.text = ""
  · rw [absolute_of_empty workingDirectory empty, absolute_of_empty workingDirectory empty]
  · have named := isName_of_mem_arrivalFrom workingDirectory path
    rw [absolute_eq_directory workingDirectory empty,
      absolute_eq_directory workingDirectory (text_directory_ne _),
      arrivalFrom_directory workingDirectory named]

theorem absolute_join_absolute (workingDirectory path further : Path) :
    absolute workingDirectory ((absolute workingDirectory path).join further) =
      absolute workingDirectory (path.join further) := by
  cases relative : further.isAbsolute with
  | true => rw [join_of_isAbsolute relative, join_of_isAbsolute relative]
  | false =>
      by_cases empty : path.text = ""
      · rw [absolute_of_empty workingDirectory empty]
      · have named := isName_of_mem_arrivalFrom workingDirectory path
        rw [absolute_eq_directory workingDirectory empty,
          absolute_eq_directory workingDirectory (text_join_ne (text_directory_ne _) relative),
          absolute_eq_directory workingDirectory (text_join_ne empty relative),
          arrivalFrom_join workingDirectory (text_directory_ne _) relative,
          arrivalFrom_directory workingDirectory named,
          arrivalFrom_join workingDirectory empty relative]

theorem foldl_absolute_join (workingDirectory path : Path) (parts : List Path) :
    parts.foldl (fun reached part => absolute workingDirectory (reached.join part))
        (absolute workingDirectory path) =
      absolute workingDirectory (parts.foldl join path) := by
  induction parts generalizing path with
  | nil => rfl
  | cons part parts induction =>
      rw [List.foldl_cons, List.foldl_cons, absolute_join_absolute, induction]

/-- The absolute form of a path is where its way ends. It does not matter where on the way a
path is made absolute: before something is joined to it, a second time, after every one of many
steps, or at the directory of the file that requires another one. -/
theorem absolute_in_one_step_or_several (workingDirectory path further : Path) :
    absolute workingDirectory path =
      (if path.text = "" then path else directory (path.arrivalFrom workingDirectory)) ∧
    absolute workingDirectory ((absolute workingDirectory path).join further) =
      absolute workingDirectory (path.join further) ∧
    absolute workingDirectory (absolute workingDirectory path) =
      absolute workingDirectory path ∧
    (∀ parts : List Path,
      parts.foldl (fun reached part => absolute workingDirectory (reached.join part))
          (absolute workingDirectory path) =
        absolute workingDirectory (parts.foldl join path)) ∧
    (∀ text file, required workingDirectory text file =
      absolute workingDirectory
        ((absolute workingDirectory (file.parent?.getD ⟨""⟩)).join (withoutLoaders text))) := by
  refine ⟨?_, absolute_join_absolute _ _ _, absolute_absolute _ _, foldl_absolute_join _ _, ?_⟩
  · split
    · next empty => exact absolute_of_empty workingDirectory empty
    · next notEmpty => exact absolute_eq_directory workingDirectory notEmpty
  · intro text file
    rw [required, absolute_join_absolute]

end Path

end DirectiveScan
