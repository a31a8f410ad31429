import DirectiveScan.Proofs.Path.Extension

namespace DirectiveScan

/-! Absolute paths that end in a name.

The end of the text of such a path is the end of the name, and the pieces in front of the name
are its other components. -/

namespace Path

/-- Whether an absolute path ends in a name, behind some pieces. -/
structure EndsIn (path : Path) (front : List String) (name : String) : Prop where
  absolute : path.isAbsolute = true
  body_eq : path.body = front ++ [name]
  named : isName name = true

theorem exists_tail_of_isAbsolute {path : Path} (absolute : path.isAbsolute = true) :
    ∃ rest, path.text.toList = '/' :: rest ∧
      path.body = (Text.pieces '/' rest).map String.ofList := by
  rcases List.head?_eq_some_iff.mp ((isAbsolute_iff path).mp absolute) with ⟨rest, isText⟩
  refine ⟨rest, isText, ?_⟩
  rw [body, absolute, if_pos rfl, Text.split, isText, Text.pieces, if_pos rfl]
  rfl

theorem body_ne_nil_of_isAbsolute {path : Path} (absolute : path.isAbsolute = true) :
    path.body ≠ [] := by
  rcases exists_tail_of_isAbsolute absolute with ⟨rest, _, isBody⟩
  rw [isBody]
  simp [Text.pieces_ne_nil]

/-- What ends a text without a separator ends the part behind a separator. -/
theorem isSuffix_append_cons_iff {separator : Char} {ending front rest : List Char}
    (free : separator ∉ ending) : ending <:+ front ++ separator :: rest ↔ ending <:+ rest := by
  constructor
  · rintro ⟨start, whole⟩
    rcases List.append_eq_append_iff.mp whole with ⟨between, _, isEnding⟩ | ⟨between, _, isRest⟩
    · exact absurd (isEnding ▸ List.mem_append_right between List.mem_cons_self) free
    · cases between with
      | nil =>
          rw [List.nil_append] at isRest
          exact absurd (isRest ▸ List.mem_cons_self) free
      | cons first between => exact ⟨between, (List.cons.inj isRest).2.symm⟩
  · intro isEnd
    exact isEnd.trans ((List.suffix_cons _ _).trans (List.suffix_append _ _))

namespace EndsIn

variable {path : Path} {front : List String} {name : String} (ends : path.EndsIn front name)

include ends

theorem components_eq :
    path.components = (.root :: (front.filter isSignificant).map componentOf) ++ [.name name] := by
  have isStep : componentOf name = .name name := if_neg (ne_parent_of_isName ends.named)
  rw [components_of_isAbsolute ends.absolute, ends.body_eq, List.filter_append,
    List.filter_cons_of_pos (isSignificant_of_isName ends.named), List.filter_nil, List.map_append,
    List.map_singleton, isStep, List.cons_append]

theorem fileName?_eq : path.fileName? = some name := by
  rw [fileName?_of_isAbsolute ends.absolute, ends.body_eq, List.reverse_append,
    List.reverse_singleton, List.singleton_append,
    List.find?_cons_of_pos (isSignificant_of_isName ends.named)]
  simp [ne_parent_of_isName ends.named]

/-- The name stands behind the last slash. -/
theorem exists_text_eq : ∃ before, path.text.toList = before ++ '/' :: name.toList := by
  rcases exists_tail_of_isAbsolute ends.absolute with ⟨rest, isText, isBody⟩
  rw [ends.body_eq] at isBody
  have isPieces : Text.pieces '/' path.text.toList =
      ([] :: front.map String.toList) ++ [name.toList] := by
    have cut := congrArg (List.map String.toList) isBody
    rw [List.map_map, List.map_append, List.map_singleton] at cut
    rw [isText, Text.pieces, if_pos rfl, List.cons_append, cut]
    simp [Function.comp_def]
  rcases Text.exists_of_pieces_eq_append _ _ isPieces (by simp) (by simp)
    with ⟨before, behind, isWhole, _, isLast⟩
  rw [Text.eq_of_pieces_eq_singleton _ isLast] at isWhole
  exact ⟨before, isWhole⟩

theorem isSuffix_text_iff {ending : List Char} (free : '/' ∉ ending) :
    ending <:+ path.text.toList ↔ ending <:+ name.toList := by
  rcases ends.exists_text_eq with ⟨before, isText⟩
  rw [isText, isSuffix_append_cons_iff free]

theorem mem_front_iff {other : String} (named : isName other = true) :
    other ∈ front ↔ .name other ∈ path.components.dropLast := by
  rw [ends.components_eq, List.dropLast_concat]
  constructor
  · intro member
    have isStep : componentOf other = .name other := if_neg (ne_parent_of_isName named)
    refine List.mem_cons_of_mem _ (isStep ▸ List.mem_map_of_mem (List.mem_filter.mpr ⟨member, ?_⟩))
    exact isSignificant_of_isName named
  · intro member
    rcases List.mem_cons.mp member with isRoot | inFront
    · cases isRoot
    · rcases List.mem_map.mp inFront with ⟨piece, isPiece, isStep⟩
      rw [componentOf] at isStep
      split at isStep
      · cases isStep
      · cases isStep
        exact (List.mem_filter.mp isPiece).1

end EndsIn

/-- A name is cut at its last point, if something stands in front of it. -/
theorem splitName_append {stem extension : String} (notEmpty : stem ≠ "")
    (free : '.' ∉ extension.toList) :
    splitName (stem ++ "." ++ extension) = (stem, some extension) := by
  have reversed : (stem ++ "." ++ extension).toList.reverse =
      extension.toList.reverse ++ '.' :: stem.toList.reverse := by
    simp
  have noPoint : ∀ character ∈ extension.toList.reverse, (character != '.') = true := by
    intro character member
    rw [bne_iff_ne]
    rintro rfl
    exact free (List.mem_reverse.mp member)
  have kept : (stem ++ "." ++ extension).toList.reverse.takeWhile (· != '.') =
      extension.toList.reverse := by
    rw [reversed, List.takeWhile_append_of_pos noPoint, List.takeWhile_cons_of_neg (by decide),
      List.append_nil]
  have stemNotEmpty : stem.toList.reverse ≠ [] := by simpa using notEmpty
  rw [splitName, kept, reversed]
  simp only [List.drop_left]
  cases isStem : stem.toList.reverse with
  | nil => exact absurd isStem stemNotEmpty
  | cons last others =>
      rw [← isStem, List.reverse_reverse, List.reverse_reverse, String.ofList_toList,
        String.ofList_toList]

end Path

end DirectiveScan
