import DirectiveScan.Proofs.Path.Absolute

namespace DirectiveScan

/-! Going down from a path by names.

Each name adds one piece and one component to a path, however the path is spelled. Paths
below the same path are therefore at the same place only if they are the same. -/

namespace Path

/-- The path below a path to which some names lead. -/
def descend (path : Path) (names : List String) : Path :=
  names.foldl (fun path name => path.join ⟨name⟩) path

theorem descend_cons (path : Path) (name : String) (names : List String) :
    path.descend (name :: names) = (path.join ⟨name⟩).descend names := rfl

theorem mem_or_mem_of_mem_join {path further : Path} (relative : further.isAbsolute = false)
    {character : Char} (noSlash : character ≠ '/')
    (member : character ∈ (path.join further).text.toList) :
    character ∈ path.text.toList ∨ character ∈ further.text.toList := by
  by_cases empty : path.text = ""
  · rw [join_of_empty empty] at member
    exact .inr member
  · rw [toList_join empty relative, ended] at member
    split at member <;> simpa [noSlash] using member

section

variable {name : String} {names : List String}

theorem components_join_name (path : Path) (named : isName name = true) :
    (path.join ⟨name⟩).components = path.components ++ [.name name] := by
  have ⟨relative, isBody⟩ := body_of_not_mem (not_mem_of_isName named)
  have counts := isSignificant_of_isName named
  have isStep : componentOf name = .name name := if_neg (ne_parent_of_isName named)
  have isSteps : (Path.mk name).steps = [.name name] := by
    rw [steps, isBody, List.filter_cons_of_pos counts, List.filter_nil, List.map_singleton, isStep]
  by_cases empty : path.text = ""
  · have noPoint : (Path.mk name).body.head? ≠ some "." := by
      rw [isBody, List.head?_cons]
      rintro isPoint
      cases isPoint
      cases counts
    have nothing : path.components = [] := by
      rw [show path = ⟨""⟩ by cases path; exact congrArg Path.mk empty]
      rfl
    rw [join_of_empty empty, nothing, components, relative]
    exact (congrArg (· ++ (Path.mk name).steps) (if_neg noPoint)).trans isSteps
  · rw [components_join empty relative, isSteps]

variable (named : ∀ name ∈ names, isName name = true)

include named

theorem components_descend (path : Path) :
    (path.descend names).components = path.components ++ names.map .name := by
  induction names generalizing path with
  | nil => exact (List.append_nil _).symm
  | cons name names induction =>
      rw [List.forall_mem_cons] at named
      rw [descend_cons, induction named.2, components_join_name path named.1, List.map_cons,
        List.append_assoc, List.singleton_append]

theorem body_descend_of_getLast? {path : Path} (isNamed : isName name = true)
    (ends : path.body.getLast? = some name) : (path.descend names).body = path.body ++ names := by
  induction names generalizing path name with
  | nil => exact (List.append_nil _).symm
  | cons next names induction =>
      rw [List.forall_mem_cons] at named
      have ⟨relative, isBody⟩ := body_of_not_mem (not_mem_of_isName named.1)
      have joined : (path.join ⟨next⟩).body = path.body ++ [next] := by
        rw [body_join_of_getLast? isNamed ends relative, isBody]
      rw [descend_cons, induction named.2 named.1 (by rw [joined, List.getLast?_concat]), joined,
        List.append_assoc, List.singleton_append]

/-- A working directory stands in front of a path and of everything below it. -/
theorem join_descend {path : Path} (notEmpty : path.text ≠ "") (workingDirectory : Path) :
    workingDirectory.join (path.descend names) = (workingDirectory.join path).descend names := by
  induction names generalizing path with
  | nil => rfl
  | cons name names induction =>
      rw [List.forall_mem_cons] at named
      have ⟨relative, _⟩ := body_of_not_mem (not_mem_of_isName named.1)
      rw [descend_cons, descend_cons, induction named.2 (text_join_ne notEmpty relative)]
      -- The first name is joined to the path before or after the working directory is.
      congr 1
      cases absolute : path.isAbsolute with
      | true => rw [join_of_isAbsolute (join_isAbsolute absolute _), join_of_isAbsolute absolute]
      | false => exact (join_join workingDirectory absolute relative).symm

theorem text_descend_ne {path : Path} (notEmpty : path.text ≠ "") :
    (path.descend names).text ≠ "" := by
  induction names generalizing path with
  | nil => exact notEmpty
  | cons name names induction =>
      rw [List.forall_mem_cons] at named
      exact induction named.2
        (text_join_ne notEmpty (body_of_not_mem (not_mem_of_isName named.1)).1)

/-- What stands in a path below a path and is no slash stands in the path or in a name. -/
theorem mem_or_exists_of_mem_descend {path : Path} {character : Char}
    (noSlash : character ≠ '/') (member : character ∈ (path.descend names).text.toList) :
    character ∈ path.text.toList ∨ ∃ name ∈ names, character ∈ name.toList := by
  induction names generalizing path with
  | nil => exact .inl member
  | cons name names induction =>
      rw [List.forall_mem_cons] at named
      rw [descend_cons] at member
      have ⟨relative, _⟩ := body_of_not_mem (not_mem_of_isName named.1)
      rcases induction named.2 member with joined | ⟨one, isOne, inside⟩
      · rcases mem_or_mem_of_mem_join relative noSlash joined with inPath | inName
        · exact .inl inPath
        · exact .inr ⟨name, List.mem_cons_self, inName⟩
      · exact .inr ⟨one, List.mem_cons_of_mem _ isOne, inside⟩

end

/-- The pieces of what lies below a path follow those of the path. Only an empty piece at its
end is left out. -/
theorem exists_front_descend (path : Path) :
    ∃ front, (path.body = front ∨ path.body = front ++ [""]) ∧
      ∀ name names, (∀ one ∈ name :: names, isName one = true) →
        (path.descend (name :: names)).body = front ++ name :: names := by
  rcases exists_front path with ⟨front, isFront, joined⟩
  refine ⟨front, isFront, fun name names named => ?_⟩
  rw [List.forall_mem_cons] at named
  have ⟨relative, isBody⟩ := body_of_not_mem (not_mem_of_isName named.1)
  have first : (path.join ⟨name⟩).body = front ++ [name] := by rw [joined _ relative, isBody]
  rw [descend_cons, body_descend_of_getLast? named.2 named.1
    (by rw [first, List.getLast?_concat]), first, List.append_assoc, List.singleton_append]

end Path

end DirectiveScan
