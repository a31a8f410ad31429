import DirectiveScan.Path.Basic

namespace DirectiveScan

/-! Paths below a directory.

The path of a directory is built from names. What is joined to it keeps its spelling, and
its pieces follow the names, so everything that is said about a joined path by its pieces
is said about the part that was joined. -/

namespace Path

/-- Whether a piece is the name of an entry of a directory. -/
def isName (piece : String) : Bool :=
  isSignificant piece && piece != ".." && !piece.toList.contains '/'

theorem not_mem_of_isName {piece : String} (named : isName piece = true) :
    '/' ∉ piece.toList := by
  simp only [isName, Bool.and_eq_true, Bool.not_eq_true', List.contains_eq_mem,
    decide_eq_false_iff_not] at named
  exact named.2

theorem isSignificant_of_isName {piece : String} (named : isName piece = true) :
    isSignificant piece = true := by
  simp only [isName, Bool.and_eq_true] at named
  exact named.1.1

theorem ne_parent_of_isName {piece : String} (named : isName piece = true) : piece ≠ ".." := by
  simp only [isName, Bool.and_eq_true, bne_iff_ne] at named
  exact named.1.2

theorem ext_toList {left right : Path} (same : left.text.toList = right.text.toList) :
    left = right := by
  cases left
  cases right
  exact congrArg Path.mk (String.toList_injective same)

theorem isAbsolute_iff (path : Path) :
    path.isAbsolute = true ↔ path.text.toList.head? = some '/' := by
  simp [isAbsolute]

/-! ## Spelling -/

/-- A text with a slash at its end. -/
def ended (text : List Char) : List Char :=
  if text.getLast? = some '/' then text else text ++ ['/']

theorem getLast?_append_of_ne_nil {α : Type} (left : List α) {right : List α}
    (notEmpty : right ≠ []) : (left ++ right).getLast? = right.getLast? := by
  rw [List.getLast?_append, Option.or_of_isSome]
  simpa using notEmpty

theorem ended_append (left : List Char) {right : List Char} (notEmpty : right ≠ []) :
    ended (left ++ right) = left ++ ended right := by
  rw [ended, ended, getLast?_append_of_ne_nil left notEmpty]
  split
  · rfl
  · exact List.append_assoc ..

theorem ended_ended (text : List Char) : ended (ended text) = ended text := by
  have ends : (ended text).getLast? = some '/' := by
    rw [ended]
    split
    · assumption
    · exact List.getLast?_concat
  rw [ended, if_pos ends]

theorem toList_join {path further : Path} (notEmpty : path.text ≠ "")
    (relative : further.isAbsolute = false) :
    (path.join further).text.toList = ended path.text.toList ++ further.text.toList := by
  have slash : ("/" : String).toList = ['/'] := rfl
  rw [join, if_neg (by simp [relative, notEmpty]), ended]
  split
  · rw [String.toList_append]
  · rw [String.toList_append, String.toList_append, slash]

theorem text_join_ne {path further : Path} (notEmpty : path.text ≠ "")
    (relative : further.isAbsolute = false) : (path.join further).text ≠ "" := by
  intro empty
  have shape := toList_join notEmpty relative
  rw [empty, ended] at shape
  split at shape <;> simp_all

theorem isAbsolute_join_eq {path further : Path} (notEmpty : path.text ≠ "")
    (relative : further.isAbsolute = false) :
    (path.join further).isAbsolute = path.isAbsolute := by
  cases characters : path.text.toList with
  | nil => exact absurd (String.toList_injective characters) notEmpty
  | cons first rest =>
      rw [isAbsolute, isAbsolute, toList_join notEmpty relative, ended, characters]
      split <;> simp

theorem text_ne_of_isAbsolute {path : Path} (absolute : path.isAbsolute = true) :
    path.text ≠ "" := by
  intro empty
  rw [isAbsolute_iff, empty] at absolute
  cases absolute

/-- The path of a directory. -/
def directory (names : List String) : Path := ofBody true names

/-- The text of a directory with a slash at its end. -/
def stem : List String → List Char
  | [] => ['/']
  | name :: names => '/' :: name.toList ++ stem names

theorem stem_ne_nil (names : List String) : stem names ≠ [] := by
  cases names <;> simp [stem]

theorem head?_stem (names : List String) : (stem names).head? = some '/' := by
  cases names <;> rfl

theorem getLast?_stem (names : List String) : (stem names).getLast? = some '/' := by
  induction names with
  | nil => rfl
  | cons name names induction =>
      rw [stem, List.getLast?_append, induction]
      rfl

theorem toList_directory_singleton (name : String) :
    (directory [name]).text.toList = '/' :: name.toList := by
  simp [directory, ofBody]

theorem toList_directory_cons_cons (name next : String) (names : List String) :
    (directory (name :: next :: names)).text.toList =
      '/' :: name.toList ++ (directory (next :: names)).text.toList := by
  simp [directory, ofBody, String.intercalate_cons_cons]

theorem head?_directory (names : List String) :
    (directory names).text.toList.head? = some '/' := by
  rcases names with _ | ⟨name, _ | ⟨next, names⟩⟩
  · decide
  · rw [toList_directory_singleton, List.head?_cons]
  · rw [toList_directory_cons_cons, List.cons_append, List.head?_cons]

theorem text_directory_ne (names : List String) : (directory names).text ≠ "" := by
  intro empty
  have first := head?_directory names
  rw [empty] at first
  cases first

theorem toList_directory_append (name : String) (names : List String) :
    (directory (name :: names)).text.toList ++ ['/'] = stem (name :: names) := by
  induction names generalizing name with
  | nil => rw [toList_directory_singleton, stem, stem, List.cons_append]
  | cons next names induction =>
      rw [toList_directory_cons_cons, List.append_assoc, induction]
      rfl

/-- The path of a directory below the root does not end with a slash. -/
theorem getLast?_directory_ne {name : String} {names : List String}
    (named : ∀ one ∈ name :: names, isName one = true) :
    (directory (name :: names)).text.toList.getLast? ≠ some '/' := by
  induction names generalizing name with
  | nil =>
      have isNamed := named name List.mem_cons_self
      intro ends
      rw [toList_directory_singleton] at ends
      cases characters : name.toList with
      | nil =>
          have empty : name = "" := String.toList_injective characters
          exact absurd (isSignificant_of_isName isNamed) (by simp [empty, isSignificant])
      | cons first rest =>
          rw [characters, List.getLast?_cons_cons, ← characters] at ends
          exact not_mem_of_isName isNamed (List.mem_of_getLast? ends)
  | cons next names induction =>
      have others : ∀ one ∈ next :: names, isName one = true :=
        fun one member => named one (List.mem_cons_of_mem _ member)
      have notEmpty : (directory (next :: names)).text.toList ≠ [] := fun empty =>
        text_directory_ne _ (String.toList_injective empty)
      rw [toList_directory_cons_cons, getLast?_append_of_ne_nil _ notEmpty]
      exact induction others

theorem ended_directory {names : List String} (named : ∀ name ∈ names, isName name = true) :
    ended (directory names).text.toList = stem names := by
  cases names with
  | nil => decide
  | cons name names =>
      rw [ended, if_neg (getLast?_directory_ne named), toList_directory_append]

theorem stem_concat (names : List String) (name : String) :
    stem (names ++ [name]) = stem names ++ name.toList ++ ['/'] := by
  induction names with
  | nil => simp [stem]
  | cons first names induction =>
      rw [List.cons_append, stem, induction, stem]
      simp

theorem join_directory_name {names : List String} {name : String}
    (named : ∀ one ∈ names ++ [name], isName one = true)
    (relative : (Path.mk name).isAbsolute = false) :
    (directory names).join ⟨name⟩ = directory (names ++ [name]) := by
  have ofNames : ∀ one ∈ names, isName one = true :=
    fun one member => named one (List.mem_append_left _ member)
  apply ext_toList
  rw [toList_join (text_directory_ne names) relative, ended_directory ofNames]
  refine List.append_cancel_right (?_ : _ ++ ['/'] = _ ++ ['/'])
  rw [← stem_concat]
  cases names with
  | nil => exact (toList_directory_append name []).symm
  | cons first names => exact (toList_directory_append first (names ++ [name])).symm

/-- What stands in the path of a directory stands in one of its names. -/
theorem mem_directory {names : List String} (named : ∀ name ∈ names, isName name = true)
    {character : Char} (noSlash : character ≠ '/') :
    character ∈ (directory names).text.toList ↔ ∃ name ∈ names, character ∈ name.toList := by
  have inStem : character ∈ stem names ↔ ∃ name ∈ names, character ∈ name.toList := by
    clear named
    induction names with
    | nil => simp [stem, noSlash]
    | cons name names induction => simp [stem, noSlash, induction]
  rw [← inStem, ← ended_directory named, ended]
  split
  · rfl
  · simp [noSlash]

section

variable {names : List String} {below further : Path}

/-- What is joined to a directory stands behind its name and a slash. -/
theorem toList_join_directory (named : ∀ name ∈ names, isName name = true)
    (relative : below.isAbsolute = false) :
    ((directory names).join below).text.toList = stem names ++ below.text.toList := by
  rw [toList_join (text_directory_ne names) relative, ended_directory named]

theorem isAbsolute_directory (names : List String) : (directory names).isAbsolute = true :=
  (isAbsolute_iff _).mpr (head?_directory names)

theorem isAbsolute_join_directory (named : ∀ name ∈ names, isName name = true)
    (relative : below.isAbsolute = false) :
    ((directory names).join below).isAbsolute = true := by
  rw [isAbsolute_iff, toList_join_directory named relative, List.head?_append, head?_stem]
  rfl

/-! ## Joining twice -/

theorem join_of_empty (empty : below.text = "") : below.join further = further := by
  rw [join, if_pos (by simp [empty])]

theorem isAbsolute_join (relative : below.isAbsolute = false)
    (furtherRelative : further.isAbsolute = false) : (below.join further).isAbsolute = false := by
  by_cases empty : below.text = ""
  · rw [join_of_empty empty]
    exact furtherRelative
  · rw [isAbsolute_join_eq empty furtherRelative, relative]

/-- A path below a path below another one is below that one. -/
theorem join_join (path : Path) (relative : below.isAbsolute = false)
    (furtherRelative : further.isAbsolute = false) :
    (path.join below).join further = path.join (below.join further) := by
  by_cases nothing : path.text = ""
  · rw [join_of_empty nothing, join_of_empty nothing]
  apply ext_toList
  rw [toList_join (text_join_ne nothing relative) furtherRelative, toList_join nothing relative,
    toList_join nothing (isAbsolute_join relative furtherRelative)]
  by_cases empty : below.text = ""
  · rw [join_of_empty empty, empty]
    simp [ended_ended]
  · have notEmpty : below.text.toList ≠ [] := fun none => empty (String.toList_injective none)
    rw [ended_append _ notEmpty, toList_join empty furtherRelative, List.append_assoc]

/-! ## Pieces -/

theorem pieces_stem_append (named : ∀ name ∈ names, isName name = true) (text : List Char) :
    Text.pieces '/' (stem names ++ text) =
      [] :: (names.map String.toList ++ Text.pieces '/' text) := by
  induction names with
  | nil => simp [stem, Text.pieces]
  | cons name names induction =>
      have others : ∀ one ∈ names, isName one = true :=
        fun one member => named one (List.mem_cons_of_mem _ member)
      have free := not_mem_of_isName (named name List.mem_cons_self)
      -- The slash in front of the other names ends the first one.
      cases tail : stem names with
      | nil => exact absurd tail (stem_ne_nil names)
      | cons first rest =>
          have isSlash : first = '/' := by
            have head := head?_stem names
            rw [tail] at head
            exact Option.some.inj head
          have behind := induction others
          rw [tail, isSlash, List.cons_append, Text.pieces, if_pos rfl] at behind
          rw [stem, tail, isSlash, List.cons_append, List.cons_append, Text.pieces, if_pos rfl,
            List.append_assoc, List.cons_append, Text.pieces_append,
            Text.pieces_of_not_mem _ _ free, List.cons.inj behind |>.2]
          rfl

theorem body_of_relative (relative : below.isAbsolute = false) :
    below.body = Text.split '/' below.text := by
  rw [body, relative]
  rfl

/-- The pieces of what is joined to a directory follow the names of the directory. -/
theorem body_join_directory (named : ∀ name ∈ names, isName name = true)
    (relative : below.isAbsolute = false) :
    ((directory names).join below).body = names ++ below.body := by
  have names_ofList : (names.map String.toList).map String.ofList = names := by
    simp [List.map_map, Function.comp_def]
  rw [body, isAbsolute_join_directory named relative, body_of_relative relative, Text.split,
    toList_join_directory named relative, pieces_stem_append named]
  simp only [if_true, List.map_cons, List.map_append, names_ofList]
  rfl

/-- No piece of a path holds a slash. -/
theorem not_mem_of_mem_body {path : Path} {piece : String} (member : piece ∈ path.body) :
    '/' ∉ piece.toList := by
  have inSplit : piece ∈ Text.split '/' path.text := by
    rw [body] at member
    split at member
    · exact List.mem_of_mem_drop member
    · exact member
  rcases List.mem_map.mp inSplit with ⟨characters, isPiece, rfl⟩
  rw [String.toList_ofList]
  exact Text.not_mem_of_mem_pieces _ _ _ isPiece

theorem body_ne_nil (relative : below.isAbsolute = false) : below.body ≠ [] := by
  rw [body_of_relative relative]
  simp [Text.split, Text.pieces_ne_nil]

theorem head?_body_ne_empty {path : Path} (relative : path.isAbsolute = false)
    (notEmpty : path.text ≠ "") : path.body.head? ≠ some "" := by
  intro empty
  rw [body_of_relative relative, Text.split] at empty
  cases characters : path.text.toList with
  | nil => exact notEmpty (String.toList_injective characters)
  | cons first rest =>
      have notSlash : first ≠ '/' := by
        rintro rfl
        simp [Path.isAbsolute, characters] at relative
      rw [characters, Text.pieces, if_neg notSlash] at empty
      cases behind : Text.pieces '/' rest with
      | nil => exact absurd behind (Text.pieces_ne_nil '/' rest)
      | cons piece pieces =>
          rw [behind] at empty
          have isEmpty := congrArg String.toList (Option.some.inj empty)
          simp at isEmpty

/-- The pieces of what is joined to a path follow those of the path. Only an empty piece at its
end is left out. -/
theorem exists_front_split (path : Path) :
    ∃ front, (Text.split '/' path.text = front ∨ Text.split '/' path.text = front ++ [""]) ∧
      ∀ further : Path, further.isAbsolute = false →
        Text.split '/' (path.join further).text = front ++ Text.split '/' further.text := by
  by_cases empty : path.text = ""
  · refine ⟨[], .inr ?_, fun further _ => ?_⟩
    · rw [empty]
      rfl
    · rw [join_of_empty empty]
      rfl
  · have splitOf (further : Path) (relative : further.isAbsolute = false) :
        Text.split '/' (path.join further).text =
          (Text.pieces '/' (ended path.text.toList ++ further.text.toList)).map String.ofList := by
      rw [Text.split, toList_join empty relative]
    by_cases ends : path.text.toList.getLast? = some '/'
    · rcases List.getLast?_eq_some_iff.mp ends with ⟨start, isStart⟩
      refine ⟨(Text.pieces '/' start).map String.ofList, .inr ?_, fun further relative => ?_⟩
      · rw [Text.split, isStart, Text.pieces_append, List.map_append]
        rfl
      · rw [splitOf further relative, ended, if_pos ends, isStart, List.append_assoc,
          List.singleton_append, Text.pieces_append, List.map_append]
        rfl
    · refine ⟨_, .inl rfl, fun further relative => ?_⟩
      rw [splitOf further relative, ended, if_neg ends, List.append_assoc,
        List.singleton_append, Text.pieces_append, List.map_append]
      rfl

theorem exists_front (path : Path) :
    ∃ front, (path.body = front ∨ path.body = front ++ [""]) ∧
      ∀ further : Path, further.isAbsolute = false →
        (path.join further).body = front ++ further.body := by
  rcases exists_front_split path with ⟨front, isFront, joined⟩
  cases absolute : path.isAbsolute with
  | false =>
      refine ⟨front, by rwa [body_of_relative absolute], fun further relative => ?_⟩
      rw [body_of_relative (isAbsolute_join absolute relative), body_of_relative relative,
        joined further relative]
  | true =>
      -- The slash at the start stands behind an empty piece, which is no piece of the path.
      have notEmpty : front ≠ [] := by
        rintro rfl
        have first := (isAbsolute_iff path).mp absolute
        cases characters : path.text.toList with
        | nil => rw [characters] at first; cases first
        | cons slash rest =>
            rw [characters] at first
            cases first
            simp [Text.split, characters, Text.pieces, Text.pieces_ne_nil] at isFront
      refine ⟨front.drop 1, ?_, fun further relative => ?_⟩
      · rw [body, absolute, if_pos rfl]
        rcases isFront with same | ended
        · exact .inl (by rw [same])
        · exact .inr (by rw [ended, List.drop_append_of_le_length
            (List.length_pos_iff.mpr notEmpty)])
      · rw [body, isAbsolute_join_eq (text_ne_of_isAbsolute absolute) relative, absolute,
          if_pos rfl, joined further relative, body_of_relative relative,
          List.drop_append_of_le_length (List.length_pos_iff.mpr notEmpty)]

/-- After a name, another piece follows directly. -/
theorem body_join_of_getLast? {path : Path} {name : String} (named : isName name = true)
    (ends : path.body.getLast? = some name) (relative : further.isAbsolute = false) :
    (path.join further).body = path.body ++ further.body := by
  rcases exists_front path with ⟨front, same | ended, joined⟩
  · rw [joined further relative, same]
  · rw [ended, List.getLast?_concat] at ends
    cases ends
    exact absurd (isSignificant_of_isName named) (by decide)

theorem body_of_not_mem {name : String} (free : '/' ∉ name.toList) :
    (Path.mk name).isAbsolute = false ∧ (Path.mk name).body = [name] := by
  have relative : (Path.mk name).isAbsolute = false := by
    cases characters : name.toList with
    | nil => simp [isAbsolute, characters]
    | cons first rest =>
        rw [characters] at free
        have different : first ≠ '/' := fun same => free (same ▸ List.mem_cons_self)
        simpa [isAbsolute, characters] using different
  refine ⟨relative, ?_⟩
  rw [body_of_relative relative, Text.split_of_not_mem free]

/-- Pieces that are joined by slashes are cut apart again. -/
theorem pieces_intercalate {piece : String} {pieces : List String}
    (free : ∀ one ∈ piece :: pieces, '/' ∉ one.toList) :
    Text.pieces '/' ("/".intercalate (piece :: pieces)).toList =
      (piece :: pieces).map String.toList := by
  induction pieces generalizing piece with
  | nil =>
      rw [String.intercalate_singleton, Text.pieces_of_not_mem _ _ (free piece List.mem_cons_self)]
      rfl
  | cons next pieces induction =>
      have slash : ("/" : String).toList = ['/'] := rfl
      rw [String.intercalate_cons_cons, String.toList_append, String.toList_append, slash,
        List.append_assoc, List.singleton_append, Text.pieces_append,
        Text.pieces_of_not_mem _ _ (free piece List.mem_cons_self),
        induction fun one member => free one (List.mem_cons_of_mem _ member)]
      rfl

theorem body_ofBody {pieces : List String} (free : ∀ piece ∈ pieces, '/' ∉ piece.toList) :
    (ofBody true pieces).body = if pieces = [] then [""] else pieces := by
  cases pieces with
  | nil => decide
  | cons piece pieces =>
      have text : (ofBody true (piece :: pieces)).text.toList =
          '/' :: ("/".intercalate (piece :: pieces)).toList := by
        rw [ofBody, if_pos rfl, String.toList_append]
        rfl
      have absolute : (ofBody true (piece :: pieces)).isAbsolute = true :=
        isAbsolute_directory (piece :: pieces)
      rw [body, absolute, Text.split, text, Text.pieces, if_pos rfl, pieces_intercalate free]
      simp [List.map_map, Function.comp_def]

theorem body_directory (named : ∀ name ∈ names, isName name = true) :
    (directory names).body = if names = [] then [""] else names :=
  body_ofBody fun name member => not_mem_of_isName (named name member)

/-! ## Components -/

/-- The components of the pieces of a path. -/
def steps (path : Path) : List Component := (path.body.filter isSignificant).map componentOf

theorem steps_names (named : ∀ name ∈ names, isName name = true) :
    (names.filter isSignificant).map componentOf = names.map .name := by
  have significant : names.filter isSignificant = names :=
    List.filter_eq_self.mpr fun name member => isSignificant_of_isName (named name member)
  rw [significant]
  apply List.map_congr_left
  intro name member
  rw [componentOf, if_neg (ne_parent_of_isName (named name member))]

theorem components_directory (named : ∀ name ∈ names, isName name = true) :
    (directory names).components = .root :: names.map .name := by
  rw [components, isAbsolute_directory, body_directory named, if_pos rfl]
  cases names with
  | nil => rfl
  | cons name names => rw [if_neg (by simp), steps_names named, List.singleton_append]

/-- A path that is not empty starts with the same piece when something is joined to it. -/
theorem head?_body_join {path : Path} (notEmpty : path.text ≠ "")
    (isRelative : path.isAbsolute = false) (relative : further.isAbsolute = false) :
    (path.join further).body.head? = path.body.head? := by
  rcases exists_front path with ⟨_ | ⟨first, front⟩, isFront, joined⟩
  · rcases isFront with none | empty
    · exact absurd none (body_ne_nil isRelative)
    · exact absurd (congrArg List.head? empty) (head?_body_ne_empty isRelative notEmpty)
  · rw [joined further relative]
    rcases isFront with same | ended
    · rw [same, List.cons_append, List.head?_cons, List.head?_cons]
    · rw [ended, List.cons_append, List.cons_append, List.head?_cons, List.head?_cons]

/-- The components of what is joined to a path follow those of the path. -/
theorem components_join {path : Path} (notEmpty : path.text ≠ "")
    (relative : further.isAbsolute = false) :
    (path.join further).components = path.components ++ further.steps := by
  have counted : (path.join further).body.filter isSignificant =
      path.body.filter isSignificant ++ further.body.filter isSignificant := by
    rcases exists_front path with ⟨front, same | ended, joined⟩
    · rw [joined further relative, same, List.filter_append]
    · have skipped : [""].filter isSignificant = [] := by decide
      rw [joined further relative, ended, List.filter_append, List.filter_append, skipped,
        List.append_nil]
  rw [components, components, isAbsolute_join_eq notEmpty relative, counted, List.map_append,
    ← List.append_assoc]
  cases isRelative : path.isAbsolute with
  | true => rfl
  | false => rw [head?_body_join notEmpty isRelative relative]; rfl

theorem isBelow_join {path : Path} (notEmpty : path.text ≠ "")
    (relative : below.isAbsolute = false) (furtherRelative : further.isAbsolute = false) :
    (path.join below).isBelow (path.join further) = further.steps.isPrefixOf below.steps := by
  rw [Bool.eq_iff_iff, isBelow, components_join notEmpty relative,
    components_join notEmpty furtherRelative, List.isPrefixOf_iff_prefix,
    List.isPrefixOf_iff_prefix, List.prefix_append_right_inj]

/-! ## File names -/

theorem head?_dropWhile_not_isSignificant (pieces : List String) :
    (pieces.dropWhile fun piece => !isSignificant piece).head? = pieces.find? isSignificant := by
  induction pieces with
  | nil => rfl
  | cons piece rest induction =>
      cases counts : isSignificant piece <;> simp [counts, induction]

/-- The file name of an absolute path is the last piece that counts. -/
theorem fileName?_of_isAbsolute {path : Path} (absolute : path.isAbsolute = true) :
    path.fileName? = (path.body.reverse.find? isSignificant).filter (· != "..") := by
  have trimmed : path.trimmedBody.getLast? = path.body.reverse.find? isSignificant := by
    rw [← head?_dropWhile_not_isSignificant, ← List.getLast?_reverse, trimmedBody, trimEnd,
      absolute]
    split
    · next empty => rw [empty]; rfl
    · next kept _ => rfl
  rw [fileName?, trimmed]
  cases found : path.body.reverse.find? isSignificant with
  | none => rfl
  | some piece =>
      have notPoint : piece ≠ "." := by
        rintro rfl
        exact absurd (List.find?_some found) (by decide)
      by_cases isParent : piece = ".." <;> simp [isParent, notPoint, Option.filter_some]

/-- Where some piece of what is joined counts, it gives the file name. -/
theorem fileName?_join_directory (named : ∀ name ∈ names, isName name = true)
    (relative : below.isAbsolute = false) (counts : below.body.any isSignificant = true) :
    ((directory names).join below).fileName? =
      (below.body.reverse.find? isSignificant).filter (· != "..") := by
  rw [fileName?_of_isAbsolute (isAbsolute_join_directory named relative),
    body_join_directory named relative, List.reverse_append, List.find?_append]
  have isSome : (below.body.reverse.find? isSignificant).isSome = true := by
    rw [List.find?_isSome]
    simpa using counts
  rw [Option.or_of_isSome isSome]

end

end Path

end DirectiveScan
