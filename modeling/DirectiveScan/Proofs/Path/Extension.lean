import DirectiveScan.Proofs.Path.Parent

namespace DirectiveScan

/-! Paths with another extension.

The last piece of a path is cut at its last point and gets a new end. The path stays in its
directory, since nothing before the last piece changes. -/

namespace Path

/-- The part of a file name before its last point. A point at the very start does not count. -/
def IsStem (name stem : String) : Prop :=
  (∃ old : String, stem ≠ "" ∧ '.' ∉ old.toList ∧ name = stem ++ "." ++ old) ∨
    (stem = name ∧ '.' ∉ name.toList.tail)

theorem isStem_splitName (name : String) : IsStem name (splitName name).1 := by
  have cut := List.takeWhile_append_dropWhile (p := (· != '.')) (l := name.toList.reverse)
  have starts := List.head?_dropWhile_not (· != '.') name.toList.reverse
  have free : '.' ∉ name.toList.reverse.takeWhile (· != '.') := fun member =>
    absurd (List.all_eq_true.mp List.all_takeWhile _ member) (by decide)
  simp only [splitName]
  generalize name.toList.reverse.takeWhile (· != '.') = kept at cut free ⊢
  generalize name.toList.reverse.dropWhile (· != '.') = behind at cut starts
  have isName : name.toList = behind.reverse ++ kept.reverse := by
    rw [← List.reverse_append, cut, List.reverse_reverse]
  rw [← cut, List.drop_left]
  rcases behind with _ | ⟨point, _ | ⟨next, stem⟩⟩
  · refine .inr ⟨rfl, fun member => free ?_⟩
    simpa [isName] using List.mem_of_mem_tail member
  · refine .inr ⟨rfl, fun member => free ?_⟩
    simpa [isName] using member
  · have isPoint : point = '.' := by simpa using starts
    refine .inl ⟨String.ofList kept.reverse, ?_, by simpa using free, ?_⟩
    · intro empty
      have := congrArg String.toList empty
      simp at this
    · apply String.toList_injective
      rw [isName, isPoint]
      simp

namespace IsStem

variable {name stem : String}

theorem ne_empty (isStem : IsStem name stem) (named : isName name = true) : stem ≠ "" := by
  rcases isStem with ⟨_, notEmpty, _⟩ | ⟨rfl, _⟩
  · exact notEmpty
  · rintro rfl
    exact absurd named (by decide)

theorem not_mem (isStem : IsStem name stem) {character : Char}
    (absent : character ∉ name.toList) : character ∉ stem.toList := by
  rcases isStem with ⟨old, _, _, rfl⟩ | ⟨rfl, _⟩
  · intro member
    exact absent (by simp [member])
  · exact absent

end IsStem

/-! ## Another last piece -/

section

variable {path : Path} {front : List String} {name piece : String}

/-- A path with another last piece stays in its directory. -/
theorem sibling_ofBody (trimmed : path.trimmedBody = front ++ [name])
    (isPrefix : front ++ [name] <+: path.body) (counts : isSignificant piece = true)
    (free : '/' ∉ piece.toList) :
    (ofBody path.isAbsolute (front ++ [piece])).trimmedBody = front ++ [piece] ∧
      (ofBody path.isAbsolute (front ++ [piece])).parent? = path.parent? := by
  have freePieces : ∀ one ∈ front ++ [piece], '/' ∉ one.toList := by
    intro one member
    rcases List.mem_append.mp member with inFront | isPiece
    · exact not_mem_of_mem_body (isPrefix.subset (List.mem_append_left _ inFront))
    · exact List.mem_singleton.mp isPiece ▸ free
  have starts : path.isAbsolute = false → (front ++ [piece]).head? ≠ some "" := by
    intro relative
    cases front with
    | nil =>
        intro empty
        rw [Option.some.inj empty] at counts
        cases counts
    | cons first others =>
        have notEmpty : path.text ≠ "" := by
          intro empty
          have isBody : path.body = [""] := by
            rw [body_of_relative relative, empty]
            rfl
          have := isPrefix.length_le
          rw [isBody] at this
          simp at this
        rcases isPrefix with ⟨rest, isBody⟩
        have := head?_body_ne_empty relative notEmpty
        rw [← isBody] at this
        exact this
  rcases trimmedBody_ofBody counts freePieces starts with ⟨same, read⟩
  exact ⟨read, by rw [parent?_of_concat read, parent?_of_concat trimmed, same]⟩

/-- Whether a name is nothing but an extension behind two points, and ends the text of the
path. -/
def IsPointed (path : Path) (stem name : String) : Prop :=
  stem = "." ∧ path.body.getLast? = some name

/-- With another extension, a file stays in its directory and keeps its stem, unless it is
pointed: then the path leads to the parent. -/
theorem withExtension_of_fileName? (isNamed : path.fileName? = some name) {extension : String}
    (notEmpty : extension ≠ "") (isFree : isExtension extension = true) :
    ∃ stem, IsStem name stem ∧ (path.withExtension extension).parent? = path.parent? ∧
      (IsPointed path stem name →
        (path.withExtension extension).components.getLast? = some .parent) ∧
      (¬IsPointed path stem name →
        (path.withExtension extension).fileName? = some (stem ++ "." ++ extension)) := by
  rcases exists_front_of_fileName? isNamed with ⟨front, trimmed, isPrefix, named⟩
  have isStem := isStem_splitName name
  refine ⟨_, isStem, ?_⟩
  rw [withExtension, isNamed]
  simp only [trimmed, List.dropLast_concat]
  by_cases pointed : IsPointed path (splitName name).1 name
  · rcases sibling_ofBody trimmed isPrefix (by decide : isSignificant ".." = true) (by decide)
      with ⟨read, sameParent⟩
    rw [if_pos (by simpa [IsPointed] using pointed)]
    refine ⟨sameParent, fun _ => ?_, fun other => absurd pointed other⟩
    rw [components_eq_trimmedBody, read, List.filter_append, List.map_append, ← List.append_assoc]
    exact List.getLast?_concat
  · have stemNotEmpty : (splitName name).1.toList ≠ [] := fun empty =>
      isStem.ne_empty named (String.toList_injective empty)
    have long : 3 ≤ ((splitName name).1 ++ "." ++ extension).toList.length := by
      have stemLength := List.length_pos_iff.mpr stemNotEmpty
      have extensionLength : 0 < extension.toList.length := List.length_pos_iff.mpr fun empty =>
        notEmpty (String.toList_injective empty)
      have point : ("." : String).toList.length = 1 := rfl
      rw [String.toList_append, String.toList_append, List.length_append, List.length_append,
        point]
      omega
    have ne_of_short {short : String} (isShort : short.toList.length < 3) :
        (splitName name).1 ++ "." ++ extension ≠ short := by
      intro same
      rw [same] at long
      omega
    have counts : isSignificant ((splitName name).1 ++ "." ++ extension) = true := by
      rw [isSignificant_iff]
      rintro (isEmpty | isPoint)
      · exact ne_of_short (by decide) isEmpty
      · exact ne_of_short (by decide) isPoint
    have free : '/' ∉ ((splitName name).1 ++ "." ++ extension).toList := by
      have stemFree := isStem.not_mem (not_mem_of_isName named)
      have extensionFree : '/' ∉ extension.toList := by simpa [isExtension] using isFree
      simp [stemFree, extensionFree]
    rcases sibling_ofBody trimmed isPrefix counts free with ⟨read, sameParent⟩
    rw [if_neg (by simpa [IsPointed] using pointed), if_neg notEmpty]
    refine ⟨sameParent, fun isPointed => absurd isPointed pointed, fun _ => ?_⟩
    rw [fileName?_of_concat read, if_neg]
    rintro (isParent | isPoint)
    · exact ne_of_short (by decide) isParent
    · exact ne_of_short (by decide) isPoint

end

end Path

end DirectiveScan
