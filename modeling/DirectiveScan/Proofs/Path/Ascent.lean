import DirectiveScan.Proofs.Path.Descent
import DirectiveScan.Proofs.Path.LastName
import DirectiveScan.Proofs.Path.Required
import Mathlib.Data.List.DropRight

namespace DirectiveScan

/-! How a path goes up.

A path may go up to a parent and down again, so one place has many paths. Behind the last step
to a parent there are only names. Two paths that go up alike and lead to the same place are
therefore spelled alike. -/

namespace Component

def isName : Component → Bool
  | .name _ => true
  | _ => false

theorem isName_iff (component : Component) :
    component.isName = true ↔ ∃ name, component = .name name := by
  cases component <;> simp [isName]

theorem exists_names {components : List Component}
    (named : ∀ component ∈ components, component.isName = true) :
    ∃ names : List String, components = names.map .name := by
  induction components with
  | nil => exact ⟨[], rfl⟩
  | cons first rest induction =>
      rw [List.forall_mem_cons] at named
      rcases (isName_iff first).mp named.1 with ⟨name, rfl⟩
      rcases induction named.2 with ⟨names, rfl⟩
      exact ⟨name :: names, rfl⟩

end Component

namespace Path

/-- The components of a path without the names at its end: those up to its last step to a
parent, if it has one. -/
def ascent (path : Path) : List Component := path.components.rdropWhile Component.isName

theorem rdropWhile_append_names (components : List Component) (names : List String) :
    (components ++ names.map Component.name).rdropWhile Component.isName =
      components.rdropWhile Component.isName := by
  rw [List.rdropWhile, List.reverse_append, List.dropWhile_append_of_pos]
  · rfl
  · intro component member
    rcases List.mem_map.mp (List.mem_reverse.mp member) with ⟨name, _, rfl⟩
    rfl

/-- Only names follow the ascent of a path. -/
theorem exists_components_eq (path : Path) :
    ∃ names : List String, path.components = path.ascent ++ names.map .name := by
  have named : ∀ component ∈ path.components.rtakeWhile Component.isName,
      component.isName = true := fun _ member => List.mem_rtakeWhile_imp member
  rcases Component.exists_names named with ⟨names, isNames⟩
  refine ⟨names, ?_⟩
  rw [← isNames, ascent, List.rdropWhile_append_rtakeWhile]

/-- Going down by names does not change the ascent. -/
theorem ascent_descend (path : Path) {names : List String}
    (named : ∀ name ∈ names, isName name = true) : (path.descend names).ascent = path.ascent := by
  rw [ascent, components_descend named, rdropWhile_append_names, ascent]

/-- Whether an absolute path leads down by names alone. -/
structure IsStraight (path : Path) : Prop where
  absolute : path.isAbsolute = true
  noParent : .parent ∉ path.components

theorem IsStraight.ascent_eq {path : Path} (straight : path.IsStraight) :
    path.ascent = [.root] := by
  have isComponents := components_of_isAbsolute straight.absolute
  have named : ∀ component ∈ (path.body.filter isSignificant).map componentOf,
      component.isName = true := by
    intro component member
    rcases List.mem_map.mp member with ⟨piece, _, rfl⟩
    rw [componentOf] at member ⊢
    split
    · next isParent =>
        rw [if_pos isParent] at member
        exact absurd (isComponents ▸ List.mem_cons_of_mem _ member) straight.noParent
    · rfl
  rcases Component.exists_names named with ⟨names, isNames⟩
  rw [ascent, isComponents, isNames, ← List.singleton_append, rdropWhile_append_names]
  rfl

theorem isStraight_directory {names : List String} (named : ∀ name ∈ names, isName name = true) :
    (directory names).IsStraight := by
  refine ⟨isAbsolute_directory names, ?_⟩
  simp [components_directory named]

/-- A piece that is not the parent keeps a path straight. -/
theorem IsStraight.join_piece {path : Path} (straight : path.IsStraight) {piece : String}
    (free : '/' ∉ piece.toList) (notUp : piece ≠ "..") : (path.join ⟨piece⟩).IsStraight := by
  have ⟨relative, isBody⟩ := body_of_not_mem free
  refine ⟨join_isAbsolute straight.absolute _, ?_⟩
  rw [components_join (text_ne_of_isAbsolute straight.absolute) relative, List.mem_append, steps,
    isBody]
  rintro (above | isPiece)
  · exact straight.noParent above
  · rcases List.mem_map.mp isPiece with ⟨one, member, isParent⟩
    cases List.mem_singleton.mp (List.mem_filter.mp member).1
    rw [componentOf, if_neg notUp] at isParent
    cases isParent

theorem isStraight_of_body {path : Path} (absolute : path.isAbsolute = true)
    (level : ".." ∉ path.body) : path.IsStraight := by
  refine ⟨absolute, ?_⟩
  rw [components_of_isAbsolute absolute]
  intro member
  rcases List.mem_cons.mp member with isRoot | inBody
  · cases isRoot
  · rcases List.mem_map.mp inBody with ⟨piece, isPiece, isParent⟩
    rw [componentOf] at isParent
    split at isParent
    · next isUp => exact level (isUp ▸ (List.mem_filter.mp isPiece).1)
    · cases isParent

/-! ## Places -/

/-- The place of an absolute path is told by its components. -/
theorem reverse_foldl_components_of_isAbsolute {path : Path} (absolute : path.isAbsolute = true) :
    (path.components.foldl collapse []).reverse = path.arrival [] := by
  rw [reverse_foldl_components, if_pos absolute]

theorem foldl_collapse_names (names stack : List String) :
    (names.map Component.name).foldl collapse stack = names.reverse ++ stack := by
  induction names generalizing stack with
  | nil => rfl
  | cons name names induction =>
      rw [List.map_cons, List.foldl_cons, induction, collapse, List.reverse_cons,
        List.append_assoc, List.singleton_append]

theorem descend_isAbsolute {path : Path} (absolute : path.isAbsolute = true)
    (names : List String) : (path.descend names).isAbsolute = true := by
  induction names generalizing path with
  | nil => exact absolute
  | cons name names induction => exact induction (join_isAbsolute absolute ⟨name⟩)

theorem arrival_descend {path : Path} (absolute : path.isAbsolute = true) {names : List String}
    (named : ∀ name ∈ names, isName name = true) :
    (path.descend names).arrival [] = path.arrival [] ++ names := by
  rw [← reverse_foldl_components_of_isAbsolute absolute,
    ← reverse_foldl_components_of_isAbsolute (descend_isAbsolute absolute names),
    components_descend named, List.foldl_append, foldl_collapse_names, List.reverse_append,
    List.reverse_reverse]

/-- The name of a file is the last one on the way to its place. -/
theorem EndsIn.fileName?_eq_getLast? {path : Path} {front : List String} {name : String}
    (ends : path.EndsIn front name) : path.fileName? = (path.arrival []).getLast? := by
  rw [ends.fileName?_eq, ← foldl_turn_body, ends.body_eq, List.foldl_append, List.foldl_cons,
    List.foldl_nil, turn_of_isName ends.named, List.getLast?_concat]

theorem absolute_eq_absolute_iff (workingDirectory : Path) {left right : Path}
    (leftAbsolute : left.isAbsolute = true) (rightAbsolute : right.isAbsolute = true) :
    absolute workingDirectory left = absolute workingDirectory right ↔
      left.arrival [] = right.arrival [] := by
  rw [absolute_eq_directory workingDirectory (text_ne_of_isAbsolute leftAbsolute),
    absolute_eq_directory workingDirectory (text_ne_of_isAbsolute rightAbsolute)]
  constructor
  · intro same
    have arrivals := congrArg (arrivalFrom · workingDirectory) same
    rwa [arrivalFrom_directory workingDirectory (isName_of_mem_arrivalFrom _ left),
      arrivalFrom_directory workingDirectory (isName_of_mem_arrivalFrom _ right),
      arrivalFrom_of_isAbsolute leftAbsolute, arrivalFrom_of_isAbsolute rightAbsolute] at arrivals
  · intro same
    rw [arrivalFrom_of_isAbsolute leftAbsolute, arrivalFrom_of_isAbsolute rightAbsolute, same]

/-- Paths that go up alike and lead to the same place have the same components. -/
theorem components_eq_of_ascent_eq {left right : Path} (leftAbsolute : left.isAbsolute = true)
    (rightAbsolute : right.isAbsolute = true) (samePlace : left.arrival [] = right.arrival [])
    (sameAscent : left.ascent = right.ascent) : left.components = right.components := by
  rcases left.exists_components_eq with ⟨names, isLeft⟩
  rcases right.exists_components_eq with ⟨others, isRight⟩
  rw [← reverse_foldl_components_of_isAbsolute leftAbsolute,
    ← reverse_foldl_components_of_isAbsolute rightAbsolute, isLeft, isRight, sameAscent,
    List.foldl_append, List.foldl_append, foldl_collapse_names, foldl_collapse_names,
    List.reverse_inj, List.append_cancel_right_eq, List.reverse_inj] at samePlace
  rw [isLeft, isRight, sameAscent, samePlace]

end Path

end DirectiveScan
