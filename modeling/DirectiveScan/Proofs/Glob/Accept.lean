import DirectiveScan.Proofs.Glob.Literal
import DirectiveScan.Proofs.Path.Join

namespace DirectiveScan.Glob

/-! What patterns stand for.

Patterns are matched with the whole text of a path. A pattern for the directories of some name
therefore stands for every path with this name among its directories, wherever it occurs in
the path, while a pattern for the ends of file names only looks at the end of the path. -/

/-! ## Tokens -/

theorem mem_rests {text rest : List Char} : rest ∈ rests text ↔ rest <:+ text := by
  induction text with
  | nil => simp [rests]
  | cons character others induction => rw [rests, List.mem_cons, induction, List.suffix_cons_iff]

theorem mem_restsAfterSlash {text rest : List Char} :
    rest ∈ restsAfterSlash text ↔ rest = [] ∨ ∃ front, text = front ++ '/' :: rest := by
  induction text with
  | nil => simp [restsAfterSlash]
  | cons character others induction =>
      have step : (∃ front, character :: others = front ++ '/' :: rest) ↔
          (character = '/' ∧ others = rest) ∨ ∃ front, others = front ++ '/' :: rest := by
        constructor
        · rintro ⟨_ | ⟨first, front⟩, same⟩
          · exact .inl (List.cons.inj same)
          · exact .inr ⟨front, (List.cons.inj same).2⟩
        · rintro (⟨rfl, rfl⟩ | ⟨front, rfl⟩)
          · exact ⟨[], rfl⟩
          · exact ⟨character :: front, rfl⟩
      rw [restsAfterSlash, step]
      split
      · next isSlash =>
          rw [List.mem_cons, induction, or_left_comm, eq_comm (a := rest) (b := others)]
          simp [isSlash]
      · next noSlash => simp [induction, noSlash]

theorem matchesTokens_anyText (tokens : List Token) (text : List Char) :
    matchesTokens (.anyText :: tokens) text = true ↔
      ∃ rest, rest <:+ text ∧ matchesTokens tokens rest = true := by
  simp only [matchesTokens, List.any_eq_true, mem_rests]

theorem matchesTokens_anyComponents (tokens : List Token) (text : List Char) :
    matchesTokens (.anyComponents :: tokens) text = true ↔
      matchesTokens tokens text = true ∨ matchesTokens tokens [] = true ∨
        ∃ front rest, text = front ++ '/' :: rest ∧ matchesTokens tokens rest = true := by
  simp only [matchesTokens, Bool.or_eq_true, List.any_eq_true, mem_restsAfterSlash]
  apply or_congr_right
  constructor
  · rintro ⟨rest, rfl | ⟨front, same⟩, isMatch⟩
    · exact .inl isMatch
    · exact .inr ⟨front, rest, same, isMatch⟩
  · rintro (isMatch | ⟨front, rest, same, isMatch⟩)
    · exact ⟨[], .inl rfl, isMatch⟩
    · exact ⟨rest, .inr ⟨front, same⟩, isMatch⟩

theorem matchesTokens_characters (characters : List Char) (tokens : List Token)
    (text : List Char) :
    matchesTokens (characters.map .character ++ tokens) text = true ↔
      ∃ rest, text = characters ++ rest ∧ matchesTokens tokens rest = true := by
  induction characters generalizing text with
  | nil => simp
  | cons character characters induction =>
      cases text with
      | nil => simp [matchesTokens]
      | cons first others =>
          simp only [List.map_cons, List.cons_append, matchesTokens, Token.admits, Bool.and_eq_true,
            decide_eq_true_eq, induction, List.cons.injEq, exists_and_left, and_assoc]

/-! ## Directories and ends -/

/-- The text of the pattern for everything in a directory. -/
def belowPattern (folder : String) : String := folder ++ "/**"

theorem isMeant_belowPattern (text : String) : Pattern.isMeant (belowPattern text) = true := by
  simp [Pattern.isMeant, belowPattern]

def Pattern.below (folder : String) : Pattern :=
  ⟨(folder.toList ++ ['/']).map .character ++ [.anyComponents]⟩

theorem readTokens_belowPattern {folder : String} (plain : isPlain folder.toList = true)
    (before : Option Char) (position : Nat) :
    readTokens before position 0 (belowPattern folder).toList =
      .ok (Pattern.below folder).tokens := by
  have isText : (belowPattern folder).toList = (folder.toList ++ ['/']) ++ ['*', '*'] := by
    simp [belowPattern]
  have plainFront : isPlain (folder.toList ++ ['/']) = true := by
    rw [isPlain, List.all_append, Bool.and_eq_true]
    exact ⟨plain, by decide⟩
  rw [isText, readTokens_plain_append plainFront, List.getLast?_concat]
  rfl

theorem read_belowPattern {folder : String} (plain : isPlain folder.toList = true) :
    Pattern.read (belowPattern folder) = .ok (.below folder) := by
  rw [Pattern.read, readTokens_belowPattern plain]
  rfl

/-- A pattern for everything in a directory stands for the texts that start with its path, and
for nothing in which something else stands before it. -/
theorem matchesTokens_below (folder : String) (text : List Char) :
    matchesTokens (Pattern.below folder).tokens text = true ↔
      folder.toList ++ ['/'] <+: text := by
  have all (rest : List Char) : matchesTokens [.anyComponents] rest = true :=
    (matchesTokens_anyComponents _ _).mpr (.inr (.inl rfl))
  rw [Pattern.below, matchesTokens_characters]
  constructor
  · rintro ⟨rest, isText, _⟩
    exact ⟨rest, isText.symm⟩
  · rintro ⟨rest, isText⟩
    exact ⟨rest, isText.symm, all rest⟩

/-- The text of the pattern for everything in directories of some name. -/
def directoryPattern (name : String) : String := "**/" ++ name ++ "/**"

/-- The text of the pattern for everything with some end. -/
def endPattern (ending : String) : String := "**/*" ++ ending

def Pattern.inDirectory (name : String) : Pattern :=
  ⟨.anyComponents :: ((name.toList ++ ['/']).map .character ++ [.anyComponents])⟩

def Pattern.withEnd (ending : String) : Pattern :=
  ⟨.anyComponents :: .anyText :: ending.toList.map .character⟩

theorem readTokens_doubleStar (text : List Char) :
    readTokens none 0 0 ('*' :: '*' :: '/' :: text) =
      (readTokens (some '/') 3 0 text).map (.anyComponents :: ·) := by
  have stars : readToken none 0 '*' ('*' :: '/' :: text) = .ok (.anyComponents, 3) := rfl
  rw [readTokens, stars]
  rfl

theorem read_directoryPattern {name : String} (plain : isPlain name.toList = true) :
    Pattern.read (directoryPattern name) = .ok (.inDirectory name) := by
  have isText : (directoryPattern name).toList =
      '*' :: '*' :: '/' :: (belowPattern name).toList := by
    simp [directoryPattern, belowPattern]
  rw [Pattern.read, isText, readTokens_doubleStar, readTokens_belowPattern plain]
  rfl

theorem read_endPattern {ending : String} (plain : isPlain ending.toList = true) :
    Pattern.read (endPattern ending) = .ok (.withEnd ending) := by
  have isText : (endPattern ending).toList = '*' :: '*' :: '/' :: '*' :: ending.toList := by
    simp [endPattern]
  have star : readToken (some '/') 3 '*' ending.toList = .ok (.anyText, 1) := by
    cases isEnding : ending.toList with
    | nil => rfl
    | cons first rest =>
        have notStar : first ≠ '*' := by
          rw [isEnding] at plain
          rintro rfl
          cases plain
        simp [readToken, notStar]
  have whole := readTokens_plain_append plain (some '*') 4 []
  rw [List.append_nil] at whole
  rw [Pattern.read, isText, readTokens_doubleStar, readTokens, star]
  simp [whole, readTokens, bind, Except.bind, Except.map, pure, Except.pure, Pattern.withEnd]

theorem inDirectory_accepts_text (name text : String) :
    (Pattern.inDirectory name).accepts text = true ↔
      (∃ rest, text.toList = name.toList ++ '/' :: rest) ∨
        ∃ front rest, text.toList = front ++ '/' :: (name.toList ++ '/' :: rest) := by
  have inside (text : List Char) : matchesTokens
        ((name.toList ++ ['/']).map .character ++ [.anyComponents]) text = true ↔
      ∃ rest, text = name.toList ++ '/' :: rest := by
    refine (matchesTokens_below name text).trans (exists_congr fun rest => ?_)
    rw [List.append_assoc, List.singleton_append, eq_comm]
  rw [Pattern.accepts, Pattern.inDirectory, matchesTokens_anyComponents, inside, inside]
  apply or_congr_right
  constructor
  · rintro (⟨rest, empty⟩ | ⟨front, rest, isText, isMatch⟩)
    · simp at empty
    · rcases (inside rest).mp isMatch with ⟨behind, rfl⟩
      exact ⟨front, behind, isText⟩
  · rintro ⟨front, rest, isText⟩
    exact .inr ⟨front, _, isText, (inside _).mpr ⟨rest, rfl⟩⟩

/-- A pattern for the directories of some name stands for every path with a directory of this
name. -/
theorem inDirectory_accepts_iff {path : Path} (absolute : path.isAbsolute = true) {name : String}
    (named : Path.isName name = true) :
    (Pattern.inDirectory name).accepts path.text = true ↔ name ∈ path.body.dropLast := by
  have free := Path.not_mem_of_isName named
  have notAtStart : ¬∃ rest, path.text.toList = name.toList ++ '/' :: rest := by
    rintro ⟨rest, isText⟩
    rw [Path.isAbsolute_iff, isText] at absolute
    cases characters : name.toList with
    | nil =>
        have empty : name = "" := String.toList_injective characters
        exact absurd named (by rw [empty]; decide)
    | cons first others =>
        rw [characters] at absolute free
        cases absolute
        exact free List.mem_cons_self
  have isBody : path.body.dropLast =
      (Text.pieces '/' path.text.toList).tail.dropLast.map String.ofList := by
    rw [Path.body, absolute, if_pos rfl, Text.split, List.drop_one, List.map_dropLast, List.map_tail]
  rw [inDirectory_accepts_text, or_iff_right notAtStart, isBody,
    ← Text.mem_dropLast_tail_pieces_iff _ free]
  constructor
  · intro member
    exact List.mem_map.mpr ⟨_, member, String.ofList_toList⟩
  · intro member
    rcases List.mem_map.mp member with ⟨characters, inside, rfl⟩
    rwa [String.toList_ofList]

theorem withEnd_accepts_iff (ending text : String) :
    (Pattern.withEnd ending).accepts text = true ↔ ending.toList <:+ text.toList := by
  have behind (text : List Char) : matchesTokens (.anyText :: ending.toList.map .character) text =
      true ↔ ending.toList <:+ text := by
    have isEnd (rest : List Char) : matchesTokens (ending.toList.map .character) rest = true ↔
        rest = ending.toList := by
      have characters := matchesTokens_characters ending.toList [] rest
      simpa [matchesTokens] using characters
    simp [matchesTokens_anyText, isEnd]
  rw [Pattern.accepts, Pattern.withEnd, matchesTokens_anyComponents]
  simp only [behind]
  constructor
  · rintro (isEnd | isEmpty | ⟨front, rest, isText, isEnd⟩)
    · exact isEnd
    · rw [List.suffix_nil.mp isEmpty]
      exact List.nil_suffix
    · rw [isText]
      exact isEnd.trans ((List.suffix_cons _ _).trans (List.suffix_append _ _))
  · exact .inl

/-! ## Below a directory -/

section

variable {names : List String} {below : Path} (named : ∀ name ∈ names, Path.isName name = true)
  (relative : below.isAbsolute = false)

include named relative

/-- The directories above a directory count as much as those below it. -/
theorem inDirectory_accepts_join {name : String} (isNamed : Path.isName name = true) :
    (Pattern.inDirectory name).accepts ((Path.directory names).join below).text = true ↔
      name ∈ names ∨ name ∈ below.body.dropLast := by
  rw [inDirectory_accepts_iff (Path.isAbsolute_join_directory named relative) isNamed,
    Path.body_join_directory named relative,
    List.dropLast_append_of_ne_nil (Path.body_ne_nil relative), List.mem_append]

/-- The end of a path below a directory is the end of what is below. -/
theorem withEnd_accepts_join {ending : String} (free : '/' ∉ ending.toList) :
    (Pattern.withEnd ending).accepts ((Path.directory names).join below).text = true ↔
      ending.toList <:+ below.text.toList := by
  rw [withEnd_accepts_iff, Path.toList_join_directory named relative]
  constructor
  · intro isEnd
    rcases List.suffix_or_suffix_of_suffix isEnd (List.suffix_append (Path.stem names) _)
      with shorter | ⟨front, isFront⟩
    · exact shorter
    · -- What a longer end takes from the directory ends with a slash.
      rcases isEnd with ⟨start, whole⟩
      rw [← isFront, ← List.append_assoc] at whole
      have isStem := List.append_cancel_right whole
      cases front with
      | nil => exact ⟨[], isFront.symm⟩
      | cons first rest =>
          have ends := Path.getLast?_stem names
          rw [← isStem, Path.getLast?_append_of_ne_nil _ (by simp)] at ends
          rw [← isFront] at free
          exact absurd (List.mem_append_left _ (List.mem_of_getLast? ends)) free
  · exact fun isEnd => isEnd.trans (List.suffix_append _ _)

end

end DirectiveScan.Glob
