import DirectiveScan.Glob.Expand

namespace DirectiveScan.Glob

/-! Text without wildcards in patterns.

Such text is read as its own characters, wherever it stands. What follows a directory in a
pattern is therefore read as it is read after a slash, and a piece that only stands for
one text stands for its own. -/

/-- Whether a text holds no wildcards. -/
def isPlain (text : List Char) : Bool :=
  text.all fun character => character != '*' && character != '?' && character != '['

theorem isMeant_of_isPlain {text : String} (plain : isPlain text.toList = true) :
    Pattern.isMeant text = false := by
  rw [isPlain, List.all_eq_true] at plain
  rw [Pattern.isMeant, List.any_eq_false]
  intro character member
  have noWildcard := plain character member
  simp only [Bool.and_eq_true, bne_iff_ne] at noWildcard
  simp [noWildcard.1.1, noWildcard.1.2]

theorem readToken_plain {character : Char} (plain : isPlain [character] = true)
    (before : Option Char) (position : Nat) (rest : List Char) :
    readToken before position character rest = .ok (.character character, 1) := by
  simp only [isPlain, List.all_cons, List.all_nil, Bool.and_true, Bool.and_eq_true,
    bne_iff_ne] at plain
  unfold readToken
  split
  · exact absurd rfl plain.1.2
  · exact absurd rfl plain.2
  · exact absurd rfl plain.1.1
  · rfl

theorem readTokens_cons_plain {character : Char} (plain : isPlain [character] = true)
    (before : Option Char) (position : Nat) (rest : List Char) :
    readTokens before position 0 (character :: rest) =
      (readTokens (some character) (position + 1) 0 rest).map (.character character :: ·) := by
  rw [readTokens, readToken_plain plain]
  rfl

/-- The pattern that stands for a text only. -/
def Pattern.ofText (text : String) : Pattern := ⟨text.toList.map .character⟩

/-- Plain text in front of a pattern is read on its own. -/
theorem readTokens_plain_append {front : List Char} (plain : isPlain front = true)
    (before : Option Char) (position : Nat) (text : List Char) :
    readTokens before position 0 (front ++ text) =
      (readTokens (front.getLast?.or before) (position + front.length) 0 text).map
        (front.map .character ++ ·) := by
  induction front generalizing before position with
  | nil => cases isRead : readTokens before position 0 text <;> simp [isRead, Except.map]
  | cons character rest induction =>
      rw [isPlain, List.all_cons, Bool.and_eq_true] at plain
      rw [List.cons_append, readTokens_cons_plain (by simpa [isPlain] using plain.1),
        induction plain.2, List.length_cons]
      have last : rest.getLast?.or (some character) = (character :: rest).getLast?.or before := by
        cases rest with
        | nil => rfl
        | cons next others =>
            rw [List.getLast?_cons_cons, Option.or_of_isSome (by simp), Option.or_of_isSome (by simp)]
      rw [last, Nat.add_assoc, Nat.add_comm 1]
      cases readTokens _ _ 0 text <;> rfl

theorem read_plain {text : String} (plain : isPlain text.toList = true) :
    Pattern.read text = .ok (.ofText text) := by
  have whole := readTokens_plain_append plain none 0 []
  rw [List.append_nil] at whole
  rw [Pattern.read, whole]
  simp [readTokens, Except.map, Pattern.ofText]

/-! ## Positions -/

theorem toOption_bind {ε α β : Type} (first : Except ε α) (next : α → Except ε β) :
    (first >>= next).toOption = first.toOption.bind fun value => (next value).toOption := by
  cases first <;> rfl

theorem toOption_map {ε α β : Type} (read : Except ε α) (change : α → β) :
    (read.map change).toOption = read.toOption.map change := by
  cases read <;> rfl

theorem eq_ok_of_toOption {ε α : Type} {read : Except ε α} {value : α}
    (isSome : read.toOption = some value) : read = .ok value := by
  cases read with
  | error failure => cases isSome
  | ok found => exact congrArg Except.ok (Option.some.inj isSome)

theorem toOption_readDoubleStar (before : Option Char) (left right : Nat) (after : List Char) :
    (readDoubleStar before left after).toOption = (readDoubleStar before right after).toOption := by
  unfold readDoubleStar
  split
  · split
    · rfl
    · split <;> rfl
  · rfl

theorem toOption_readToken (before : Option Char) (left right : Nat) (character : Char)
    (rest : List Char) :
    (readToken before left character rest).toOption =
      (readToken before right character rest).toOption := by
  unfold readToken
  split
  · rfl
  · split <;> rfl
  · split
    · rfl
    · next after _ =>
        have same := toOption_readDoubleStar before left right after
        simp only [toOption_map, same]
    · rfl
  · rfl

/-- The position of a text only shows in the message of a mistake. -/
theorem toOption_readTokens (before : Option Char) (left right passed : Nat) (text : List Char) :
    (readTokens before left passed text).toOption =
      (readTokens before right passed text).toOption := by
  induction text generalizing before left right passed with
  | nil => cases passed <;> rfl
  | cons character rest induction =>
      cases passed with
      | succ passed => exact induction _ _ _ _
      | zero =>
          rw [readTokens, readTokens]
          simp only [toOption_bind, toOption_readToken before left right,
            induction (some character) (left + 1) (right + 1)]

/-- Plain text in front of a pattern counts only by its last character. -/
theorem isSome_readTokens_plain {front : List Char} (plain : isPlain front = true)
    (notEmpty : front ≠ []) (before : Option Char) (position : Nat) (text : List Char) :
    (readTokens before position 0 (front ++ text)).toOption.isSome =
      (readTokens front.getLast? 0 0 text).toOption.isSome := by
  have isSome : front.getLast?.isSome = true := by simpa using notEmpty
  rw [readTokens_plain_append plain, Option.or_of_isSome isSome, toOption_map, Option.isSome_map,
    toOption_readTokens _ _ 0]

/-! ## Pieces that stand for one text -/

theorem eq_of_readToken {before : Option Char} {position length : Nat}
    {character found : Char} {rest : List Char}
    (read : readToken before position character rest = .ok (.character found, length)) :
    found = character ∧ length = 1 := by
  unfold readToken at read
  split at read
  · cases read
  · next after =>
      have noCharacter (token : Token) (size : Nat)
          (isSet : readBrackets rest = some (token, size)) : token ≠ .character found := by
        unfold readBrackets at isSet
        split at isSet <;>
        · rcases Option.map_eq_some_iff.mp isSet with ⟨_, _, same⟩
          cases same
          simp
      split at read
      · next token size isSet =>
          cases read
          exact absurd rfl (noCharacter _ _ isSet)
      · cases read
  · split at read
    · cases read
    · next after _ =>
        cases stars : readDoubleStar before position after <;>
        · rw [stars] at read
          cases read
    · cases read
  · cases read
    exact ⟨rfl, rfl⟩

theorem exists_of_bind_eq_ok {ε α β : Type} {first : Except ε α} {next : α → Except ε β}
    {result : β} (isOk : (first >>= next) = .ok result) :
    ∃ value, first = .ok value ∧ next value = .ok result := by
  cases first with
  | error failure => cases isOk
  | ok value => exact ⟨value, rfl, isOk⟩

theorem exists_of_mem_mapM {ε α β : Type} {read : α → Except ε β} {values : List α}
    {results : List β} (isRead : values.mapM read = .ok results) {result : β}
    (member : result ∈ results) : ∃ value ∈ values, read value = .ok result := by
  induction values generalizing results with
  | nil =>
      cases isRead
      cases member
  | cons value rest induction =>
      rw [List.mapM_cons] at isRead
      rcases exists_of_bind_eq_ok isRead with ⟨first, isFirst, isRead⟩
      rcases exists_of_bind_eq_ok isRead with ⟨others, isOthers, same⟩
      cases same
      rcases List.mem_cons.mp member with rfl | inOthers
      · exact ⟨value, List.mem_cons_self, isFirst⟩
      · rcases induction isOthers inOthers with ⟨one, inRest, isOne⟩
        exact ⟨one, List.mem_cons_of_mem _ inRest, isOne⟩

theorem eq_of_readTokens {text found : List Char} {tokens : List Token} {before : Option Char}
    {position : Nat} (read : readTokens before position 0 text = .ok tokens)
    (literal : tokens.mapM Pattern.characterOf? = some found) : found = text := by
  induction text generalizing tokens found before position with
  | nil =>
      cases read
      cases literal
      rfl
  | cons character rest induction =>
      rw [readTokens] at read
      rcases exists_of_bind_eq_ok read with ⟨⟨token, length⟩, isToken, read⟩
      rcases exists_of_bind_eq_ok read with ⟨behind, isBehind, same⟩
      cases same
      cases token with
      | character one =>
          rcases eq_of_readToken isToken with ⟨rfl, rfl⟩
          rw [List.mapM_cons] at literal
          rcases Option.bind_eq_some_iff.mp literal with ⟨_, isOne, literal⟩
          cases isOne
          rcases Option.bind_eq_some_iff.mp literal with ⟨tail, isTail, same⟩
          cases same
          rw [induction isBehind isTail]
      | _ => cases literal

/-- A piece that stands for one text stands for its own. -/
theorem eq_of_literal? {piece name : String} {pattern : Pattern}
    (read : Pattern.read piece = .ok pattern) (isLiteral : pattern.literal? = some name) :
    name = piece := by
  rw [Pattern.read] at read
  cases isTokens : readTokens none 0 0 piece.toList with
  | error mistake =>
      rw [isTokens] at read
      cases read
  | ok tokens =>
      rw [isTokens] at read
      cases read
      rcases Option.map_eq_some_iff.mp isLiteral with ⟨found, isFound, rfl⟩
      rw [eq_of_readTokens isTokens isFound, String.ofList_toList]

theorem literal?_ofText (text : String) : (Pattern.ofText text).literal? = some text := by
  have all (characters : List Char) :
      (characters.map Token.character).mapM Pattern.characterOf? = some characters := by
    induction characters with
    | nil => rfl
    | cons character rest induction => rw [List.map_cons, List.mapM_cons, induction]; rfl
  rw [Pattern.literal?, Pattern.ofText, all, Option.map_some, String.ofList_toList]

end DirectiveScan.Glob
