namespace DirectiveScan.Text

/-! Cutting a text at every occurrence of a separator. -/

/-- The pieces between separators. There is one piece more than separators. -/
def pieces (separator : Char) : List Char → List (List Char)
  | [] => [[]]
  | character :: rest =>
      if character = separator then [] :: pieces separator rest
      else
        match pieces separator rest with
        | [] => [[character]]
        | first :: others => (character :: first) :: others

/-- The pieces of a text between separators. -/
def split (separator : Char) (text : String) : List String :=
  (pieces separator text.toList).map String.ofList

theorem pieces_ne_nil (separator : Char) (text : List Char) : pieces separator text ≠ [] := by
  cases text with
  | nil => simp [pieces]
  | cons character rest =>
      rw [pieces]
      split
      · simp
      · split <;> simp

/-- Cutting a text at one of its separators cuts both sides on their own. -/
theorem pieces_append (separator : Char) (left right : List Char) :
    pieces separator (left ++ separator :: right) =
      pieces separator left ++ pieces separator right := by
  induction left with
  | nil => simp [pieces]
  | cons character rest induction =>
      by_cases equal : character = separator
      · simp [pieces, equal, induction]
      · have found : ∃ first others, pieces separator rest = first :: others := by
          cases h : pieces separator rest with
          | nil => exact absurd h (pieces_ne_nil separator rest)
          | cons first others => exact ⟨first, others, rfl⟩
        obtain ⟨first, others, split⟩ := found
        simp [pieces, equal, induction, split]

/-- No piece holds the separator. -/
theorem not_mem_of_mem_pieces (separator : Char) (text piece : List Char)
    (member : piece ∈ pieces separator text) : separator ∉ piece := by
  induction text generalizing piece with
  | nil =>
      simp [pieces] at member
      simp [member]
  | cons character rest induction =>
      by_cases equal : character = separator
      · simp [pieces, equal] at member
        rcases member with rfl | member
        · simp
        · exact induction piece member
      · cases h : pieces separator rest with
        | nil => exact absurd h (pieces_ne_nil separator rest)
        | cons first others =>
            simp [pieces, equal, h] at member
            rcases member with rfl | member
            · have tail := induction first (by simp [h])
              simp [tail, Ne.symm equal]
            · exact induction piece (by simp [h, member])

/-- A text without separators is its only piece. -/
theorem pieces_of_not_mem (separator : Char) (text : List Char) (free : separator ∉ text) :
    pieces separator text = [text] := by
  induction text with
  | nil => rfl
  | cons character rest induction =>
      have different : character ≠ separator := fun same => free (same ▸ List.mem_cons_self ..)
      have restFree : separator ∉ rest := fun member => free (List.mem_cons_of_mem _ member)
      rw [pieces, if_neg different, induction restFree]

theorem split_append {separator : Char} {divider : String}
    (isDivider : divider.toList = [separator]) (left right : String) :
    split separator (left ++ divider ++ right) = split separator left ++ split separator right := by
  rw [split, String.toList_append, String.toList_append, isDivider, List.append_assoc,
    List.singleton_append, pieces_append, List.map_append, split, split]

theorem split_of_not_mem {separator : Char} {text : String} (free : separator ∉ text.toList) :
    split separator text = [text] := by
  rw [split, pieces_of_not_mem _ _ free, List.map_singleton, String.ofList_toList]

/-- Between two pieces of a text stands a separator. -/
theorem exists_of_pieces_eq_append (separator : Char) (text : List Char)
    {left right : List (List Char)} (split : pieces separator text = left ++ right)
    (leftNotEmpty : left ≠ []) (rightNotEmpty : right ≠ []) :
    ∃ front rest, text = front ++ separator :: rest ∧
      pieces separator front = left ∧ pieces separator rest = right := by
  induction text generalizing left with
  | nil =>
      have lengths := congrArg List.length split
      have := List.length_pos_iff.mpr leftNotEmpty
      have := List.length_pos_iff.mpr rightNotEmpty
      simp [pieces] at lengths
      omega
  | cons character others induction =>
      rcases left with _ | ⟨piece, left⟩
      · exact absurd rfl leftNotEmpty
      by_cases equal : character = separator
      · rw [pieces, if_pos equal, List.cons_append, List.cons.injEq] at split
        rcases split with ⟨rfl, split⟩
        cases left with
        | nil => exact ⟨[], others, by rw [equal]; rfl, rfl, split⟩
        | cons next left =>
            rcases induction split (by simp) with ⟨front, rest, rfl, isFront, isRest⟩
            exact ⟨character :: front, rest, rfl, by rw [pieces, if_pos equal, isFront], isRest⟩
      · cases behind : pieces separator others with
        | nil => exact absurd behind (pieces_ne_nil separator others)
        | cons first further =>
            rw [pieces, if_neg equal, behind, List.cons_append, List.cons.injEq] at split
            rcases split with ⟨rfl, split⟩
            rw [split, ← List.cons_append] at behind
            rcases induction behind (by simp) with ⟨front, rest, rfl, isFront, isRest⟩
            exact ⟨character :: front, rest, rfl, by rw [pieces, if_neg equal, isFront], isRest⟩

/-- A text with one piece is its own piece. -/
theorem eq_of_pieces_eq_singleton (separator : Char) {text piece : List Char}
    (single : pieces separator text = [piece]) : text = piece := by
  by_cases member : separator ∈ text
  · rcases List.append_of_mem member with ⟨front, rest, rfl⟩
    rw [pieces_append] at single
    have lengths := congrArg List.length single
    have := List.length_pos_iff.mpr (pieces_ne_nil separator front)
    have := List.length_pos_iff.mpr (pieces_ne_nil separator rest)
    simp at lengths
    omega
  · rw [pieces_of_not_mem _ _ member] at single
    exact List.singleton_inj.mp single

/-- The pieces inside a text are those between two separators. -/
theorem mem_dropLast_tail_pieces_iff (separator : Char) {text piece : List Char}
    (free : separator ∉ piece) :
    piece ∈ (pieces separator text).tail.dropLast ↔
      ∃ front rest, text = front ++ separator :: (piece ++ separator :: rest) := by
  constructor
  · intro member
    rcases List.append_of_mem member with ⟨before, behind, isInside⟩
    cases isPieces : pieces separator text with
    | nil => exact absurd isPieces (pieces_ne_nil separator text)
    | cons first others =>
        rw [isPieces, List.tail_cons] at isInside
        have notEmpty : others ≠ [] := by
          rintro rfl
          simp at isInside
        rw [← List.dropLast_concat_getLast notEmpty, isInside, List.append_assoc,
          List.cons_append, ← List.cons_append] at isPieces
        rcases exists_of_pieces_eq_append separator text isPieces (by simp) (by simp)
          with ⟨front, inner, rfl, _, isInner⟩
        rcases @exists_of_pieces_eq_append separator inner [piece] _ isInner (by simp) (by simp)
          with ⟨middle, rest, rfl, isMiddle, _⟩
        exact ⟨front, rest, by rw [eq_of_pieces_eq_singleton separator isMiddle]⟩
  · rintro ⟨front, rest, rfl⟩
    rw [pieces_append, pieces_append, pieces_of_not_mem _ _ free]
    cases isFront : pieces separator front with
    | nil => exact absurd isFront (pieces_ne_nil separator front)
    | cons first others =>
        rw [List.cons_append, List.tail_cons, List.singleton_append,
          List.dropLast_append_of_ne_nil (by simp),
          List.dropLast_cons_of_ne_nil (pieces_ne_nil separator rest)]
        simp

end DirectiveScan.Text
