import DirectiveScan.Json.Read
import Mathlib.Data.List.Basic

namespace DirectiveScan.JsonValue

/-! Written values are read back.

A value is readable if its written form, at any depth and before any further text, is
read as the value and nothing more. Strings with a text are readable, and arrays and
objects are if everything in them is. -/

/-! ## Strings -/

theorem hexValue?_hexDigit : ∀ value < 16, hexValue? (hexDigit value) = some value := by
  decide

/-- The four digits of a control character stand for its number. -/
theorem codeOf?_control {code : Nat} (small : code < 32) :
    codeOf? '0' '0' (hexDigit (code / 16)) (hexDigit (code % 16)) = some code := by
  have high := hexValue?_hexDigit (code / 16) (by omega)
  have low := hexValue?_hexDigit (code % 16) (by omega)
  have zero : hexValue? '0' = some 0 := rfl
  have sum : code / 16 * 16 + code % 16 = code := by omega
  simp [codeOf?, high, low, zero, sum]

theorem textOf_code {code : Nat} (small : code < 32) (units : List StringUnit) :
    textOf (.code code :: units) = (textOf units).map (Char.ofNat code :: ·) := by
  have notHigh : isHighSurrogate code = false := by simp [isHighSurrogate]; omega
  have notLow : isLowSurrogate code = false := by simp [isLowSurrogate]; omega
  rw [textOf.eq_def]
  simp only [notHigh, notLow, Bool.false_eq_true, if_false]

theorem readUnits_escaped {letter character : Char} (isEscaped : escaped? letter = some character)
    (rest : List Char) :
    readUnits ('\\' :: letter :: rest) =
      (readUnits rest).map fun read => (.character character :: read.1, read.2) := by
  have notCode : letter ≠ 'u' := by
    intro equal
    subst letter
    cases isEscaped
  rw [readUnits, isEscaped]
  · cases readUnits rest <;> rfl
  · intro first second third fourth others equal
    exact absurd equal notCode

theorem readUnits_plain {character : Char} (noQuote : character ≠ '\x22')
    (noBackslash : character ≠ '\\') (large : ¬character.toNat < 32) (rest : List Char) :
    readUnits (character :: rest) =
      (readUnits rest).map fun read => (.character character :: read.1, read.2) := by
  rw [readUnits]
  · simp only [large, noBackslash, decide_false, Bool.or_self, Bool.false_eq_true, if_false]
    cases readUnits rest <;> rfl
  · exact noQuote
  · intro first second third fourth others equal
    exact absurd equal noBackslash
  · intro letter others equal
    exact absurd equal noBackslash

/-- The written form of a character is read as one unit, and the unit stands for the
character. -/
theorem exists_unit (character : Char) :
    ∃ unit, (∀ rest, readUnits (escape character ++ rest) =
        (readUnits rest).map fun read => (unit :: read.1, read.2)) ∧
      ∀ units, textOf (unit :: units) = (textOf units).map (character :: ·) := by
  fun_cases escape character with
  | case8 _ _ _ _ _ _ _ _ small =>
      refine ⟨.code character.toNat, fun rest => ?_, fun units => ?_⟩
      · simp only [List.cons_append, List.nil_append, readUnits, codeOf?_control small]
        cases readUnits rest <;> rfl
      · rw [textOf_code small, Char.ofNat_toNat]
  | case9 _ noQuote noBackslash _ _ _ _ _ large =>
      exact ⟨.character character, readUnits_plain noQuote noBackslash large, fun _ => rfl⟩
  | _ => exact ⟨.character _, readUnits_escaped rfl, fun _ => rfl⟩

theorem exists_units (characters : List Char) :
    ∃ units, (∀ rest, readUnits (characters.flatMap escape ++ '\x22' :: rest) =
        some (units, rest)) ∧
      textOf units = some characters := by
  induction characters with
  | nil => exact ⟨[], fun _ => rfl, rfl⟩
  | cons character others induction =>
      rcases exists_unit character with ⟨unit, isRead, isText⟩
      rcases induction with ⟨units, areRead, areText⟩
      refine ⟨unit :: units, fun rest => ?_, by rw [isText, areText]; rfl⟩
      rw [List.flatMap_cons, List.append_assoc, isRead, areRead]
      rfl

theorem toList_quote (text : String) :
    (quote (some text)).toList = '\x22' :: (text.toList.flatMap escape ++ ['\x22']) := by
  simp [quote]

theorem readText_quote (text : String) (rest : List Char) :
    readText ((quote (some text)).toList ++ rest) = some (some text, rest) := by
  rcases exists_units text.toList with ⟨units, areRead, areText⟩
  rw [toList_quote, List.cons_append, List.append_assoc, readText]
  simp [areRead, areText]

/-! ## Blanks -/

theorem skipBlanks_newLine (depth : Nat) (rest : List Char) :
    skipBlanks ((newLine depth).toList ++ rest) = skipBlanks rest := by
  have blanks : ∀ character ∈ (newLine depth).toList, isBlank character = true := by
    intro character member
    rw [newLine, String.toList_append, List.mem_append] at member
    rcases member with inLineEnd | inBlanks
    · rw [show character = '\n' by simpa using inLineEnd]
      rfl
    · rw [String.toList_ofList] at inBlanks
      rw [List.eq_of_mem_replicate inBlanks]
      rfl
  rw [skipBlanks, skipBlanks, List.dropWhile_append_of_pos blanks]

theorem skipBlanks_cons {character : Char} (noBlank : isBlank character = false)
    (rest : List Char) : skipBlanks (character :: rest) = character :: rest := by
  rw [skipBlanks, List.dropWhile_cons_of_neg (by simp [noBlank])]

/-! ## Lists of things

Items and members are read alike. Behind a thing there is either the closing character
or a comma and more things. -/

/-- A text that starts with something to read. -/
def Starts (text : String) (closing : Char) : Prop :=
  ∃ first rest, text.toList = first :: rest ∧ isBlank first = false ∧ first ≠ closing

theorem Starts.skipBlanks {text : String} {closing : Char} (starts : Starts text closing)
    (rest : List Char) : skipBlanks (text.toList ++ rest) = text.toList ++ rest := by
  rcases starts with ⟨first, others, isText, noBlank, _⟩
  rw [isText, List.cons_append, skipBlanks_cons noBlank]

theorem Starts.append {text : String} {closing : Char} (starts : Starts text closing)
    (further : String) : Starts (text ++ further) closing := by
  rcases starts with ⟨first, rest, isText, startsWell⟩
  refine ⟨first, rest ++ further.toList, ?_, startsWell⟩
  rw [String.toList_append, isText, List.cons_append]

/-- How a list reader takes a thing from the front of its text. -/
structure Takes {α : Type} (readMany : Nat → Read (List α)) (closing : Char) (written : String)
    (thing : α) : Prop where
  starts : Starts written closing
  last : ∀ bound depth ending, 2 * written.length ≤ bound →
    readMany (bound + 1) (written.toList ++ ((newLine depth).toList ++ closing :: ending)) =
      some ([thing], ending)
  more : ∀ bound others things ending, 2 * written.length ≤ bound →
    readMany bound (skipBlanks others) = some (things, ending) →
    readMany (bound + 1) (written.toList ++ ',' :: others) = some (thing :: things, ending)

/-- What divides two things at a depth. -/
def divider (depth : Nat) : String := "," ++ newLine depth

theorem toList_divider (depth : Nat) : (divider depth).toList = ',' :: (newLine depth).toList := by
  simp [divider]

theorem Starts.intercalate {closing : Char} {text : String} (starts : Starts text closing)
    (texts : List String) (depth : Nat) :
    Starts ((divider depth).intercalate (text :: texts)) closing := by
  cases texts with
  | nil => rwa [String.intercalate_singleton]
  | cons next texts =>
      rw [String.intercalate_cons_cons, String.append_assoc]
      exact starts.append _

/-- A reader that takes every thing reads them all. -/
theorem read_intercalate {α : Type} {readMany : Nat → Read (List α)} {closing : Char}
    {written : α → String} (thing : α) (things : List α)
    (takes : ∀ other ∈ thing :: things, Takes readMany closing (written other) other)
    (inner depth bound : Nat) (ending : List Char)
    (enough : 2 * ((divider inner).intercalate ((thing :: things).map written)).length < bound) :
    readMany bound (((divider inner).intercalate ((thing :: things).map written)).toList ++
      ((newLine depth).toList ++ closing :: ending)) = some (thing :: things, ending) := by
  induction things generalizing thing bound with
  | nil =>
      rw [List.map_singleton, String.intercalate_singleton] at enough ⊢
      cases bound with
      | zero => omega
      | succ bound =>
          exact (takes thing (by simp)).last bound depth ending (by omega)
  | cons next things induction =>
      rw [List.map_cons, List.map_cons, String.intercalate_cons_cons] at enough ⊢
      cases bound with
      | zero => omega
      | succ bound =>
          have dividerLength : 0 < (divider inner).length := by
            rw [← String.length_toList, toList_divider]
            simp
          simp only [String.length_append] at enough
          have nextStarts := (takes next (by simp)).starts.intercalate (things.map written) inner
          have others := induction next (fun other member => takes other (by simp [member])) bound
            (by simp only [List.map_cons]; omega)
          rw [List.map_cons] at others
          simp only [String.toList_append, toList_divider, List.append_assoc, List.cons_append]
          apply (takes thing (by simp)).more bound _ _ ending (by omega)
          rw [skipBlanks_newLine, nextStarts.skipBlanks]
          exact others

/-! ## Values -/

/-- The written form of a value is read as the value, whatever follows it. -/
structure Readable (value : JsonValue) : Prop where
  starts : ∀ depth, Starts (value.writeAt depth) ']'
  read : ∀ depth bound rest, 2 * (value.writeAt depth).length ≤ bound →
    readValue bound ((value.writeAt depth).toList ++ rest) = some (value, rest)

theorem readable_boolean (flag : Bool) : (boolean flag).Readable := by
  cases flag with
  | true =>
      refine ⟨fun depth => ⟨'t', ['r', 'u', 'e'], by rw [writeAt, if_pos rfl]; rfl, rfl,
        by decide⟩, ?_⟩
      intro depth bound rest enough
      rw [writeAt, if_pos rfl] at enough ⊢
      cases bound with
      | zero => exact absurd enough (by decide)
      | succ bound => rfl
  | false =>
      refine ⟨fun depth => ⟨'f', ['a', 'l', 's', 'e'], by rw [writeAt, if_neg (by decide)]; rfl,
        rfl, by decide⟩, ?_⟩
      intro depth bound rest enough
      rw [writeAt, if_neg (by decide)] at enough ⊢
      cases bound with
      | zero => exact absurd enough (by decide)
      | succ bound => rfl

theorem starts_quote (text : String) {closing : Char} (noQuote : '\x22' ≠ closing) :
    Starts (quote (some text)) closing :=
  ⟨'\x22', _, toList_quote text, rfl, noQuote⟩

theorem readable_text (text : String) : (ofText text).Readable := by
  constructor
  · intro depth
    rw [ofText, writeAt]
    exact starts_quote text (by decide)
  · intro depth bound rest enough
    rw [ofText, writeAt] at enough ⊢
    cases bound with
    | zero =>
        rw [← String.length_toList, toList_quote] at enough
        simp at enough
    | succ bound =>
        have isRead := readText_quote text rest
        rw [toList_quote, List.cons_append] at isRead ⊢
        rw [readValue, isRead]
        rfl

theorem writeItems_eq (depth : Nat) (items : List JsonValue) :
    writeItems depth items = items.map (writeAt depth) := by
  induction items with
  | nil => rw [writeItems, List.map_nil]
  | cons item rest induction => rw [writeItems, induction, List.map_cons]

/-- The written form of a member at a depth. -/
def writeMember (depth : Nat) (member : JsonText × JsonValue) : String :=
  quote member.1 ++ ": " ++ writeAt depth member.2

theorem writeMembers_eq (depth : Nat) (members : List (JsonText × JsonValue)) :
    writeMembers depth members = members.map (writeMember depth) := by
  induction members with
  | nil => rw [writeMembers, List.map_nil]
  | cons member rest induction => rw [writeMembers, induction, List.map_cons, writeMember]

theorem bracketed_cons (depth : Nat) (opening closing thing : String) (things : List String) :
    bracketed depth opening closing (thing :: things) =
      opening ++ newLine (depth + 1) ++ (divider (depth + 1)).intercalate (thing :: things) ++
        newLine depth ++ closing := by
  rw [bracketed, divider]
  exact List.cons_ne_nil thing things

theorem takes_item {item : JsonValue} (readable : item.Readable) (depth : Nat) :
    Takes readItems ']' (item.writeAt depth) item := by
  refine ⟨readable.starts depth, ?_, ?_⟩
  · intro bound outer ending enough
    rw [readItems, readable.read depth bound _ enough]
    simp only [Option.bind_eq_bind, Option.bind_some, skipBlanks_newLine]
    rfl
  · intro bound others things ending enough areRead
    rw [readItems, readable.read depth bound _ enough]
    simp only [Option.bind_eq_bind, Option.bind_some, @skipBlanks_cons ',' rfl others, areRead]
    rfl

theorem takes_member {value : JsonValue} (key : String) (readable : value.Readable) (depth : Nat) :
    Takes readMembers '\x7d' (writeMember depth (some key, value)) (some key, value) := by
  have toList (rest : List Char) : (writeMember depth (some key, value)).toList ++ rest =
      (quote (some key)).toList ++ (':' :: ' ' :: ((value.writeAt depth).toList ++ rest)) := by
    simp [writeMember]
  have longer : (value.writeAt depth).length ≤ (writeMember depth (some key, value)).length := by
    simp [writeMember]
  have behindColon (rest : List Char) :
      skipBlanks (' ' :: ((value.writeAt depth).toList ++ rest)) =
        (value.writeAt depth).toList ++ rest := (readable.starts depth).skipBlanks rest
  refine ⟨((starts_quote key (by decide)).append ": ").append _, ?_, ?_⟩
  · intro bound outer ending enough
    rw [toList, readMembers, readText_quote]
    simp only [Option.bind_eq_bind, Option.bind_some, @skipBlanks_cons ':' rfl, behindColon,
      readable.read depth bound _ (by omega), skipBlanks_newLine]
    rfl
  · intro bound others things ending enough areRead
    rw [toList, readMembers, readText_quote]
    simp only [Option.bind_eq_bind, Option.bind_some, @skipBlanks_cons ':' rfl, behindColon,
      readable.read depth bound _ (by omega), @skipBlanks_cons ',' rfl others, areRead]
    rfl

theorem readValue_array (bound : Nat) {text : List Char}
    (notClosed : ∀ rest, skipBlanks text ≠ ']' :: rest) :
    readValue (bound + 1) ('[' :: text) =
      (readItems bound (skipBlanks text)).map fun read => (array read.1, read.2) := by
  rw [readValue]
  split
  · next rest closed => exact absurd closed (notClosed rest)
  · rfl

theorem readValue_object (bound : Nat) {text : List Char}
    (notClosed : ∀ rest, skipBlanks text ≠ '\x7d' :: rest) :
    readValue (bound + 1) ('\x7b' :: text) =
      (readMembers bound (skipBlanks text)).map fun read => (object read.1, read.2) := by
  rw [readValue]
  split
  · next rest closed => exact absurd closed (notClosed rest)
  · rfl

/-- Things between brackets are readable when a list reader takes every one of them. -/
theorem readable_of_bracketed {α : Type} (readMany : Nat → Read (List α)) (opening closing : Char)
    (written : Nat → α → String) {wrap : List α → JsonValue} (things : List α)
    (isWritten : ∀ depth, (wrap things).writeAt depth = bracketed depth (.singleton opening)
      (.singleton closing) (things.map (written (depth + 1))))
    (opens : isBlank opening = false ∧ opening ≠ ']')
    (empty : ∀ bound rest, readValue (bound + 1) (opening :: closing :: rest) =
      some (wrap [], rest))
    (more : ∀ bound text, (∀ rest, skipBlanks text ≠ closing :: rest) →
      readValue (bound + 1) (opening :: text) =
        (readMany bound (skipBlanks text)).map fun read => (wrap read.1, read.2))
    (takes : ∀ depth, ∀ thing ∈ things, Takes readMany closing (written depth thing) thing) :
    (wrap things).Readable := by
  cases things with
  | nil =>
      have isText (depth : Nat) : ((wrap []).writeAt depth).toList = [opening, closing] := by
        rw [isWritten, List.map_nil, bracketed]
        simp
      refine ⟨fun depth => ⟨opening, [closing], isText depth, opens⟩, ?_⟩
      intro depth bound rest enough
      rw [← String.length_toList, isText] at enough
      rw [isText]
      cases bound with
      | zero => simp at enough
      | succ bound => exact empty bound rest
  | cons thing things =>
      have isText (depth : Nat) : ((wrap (thing :: things)).writeAt depth).toList =
          opening :: ((newLine (depth + 1)).toList ++
            (((divider (depth + 1)).intercalate
              ((thing :: things).map (written (depth + 1)))).toList ++
              ((newLine depth).toList ++ [closing]))) := by
        rw [isWritten, List.map_cons, bracketed_cons]
        simp
      refine ⟨fun depth => ⟨opening, _, isText depth, opens⟩, ?_⟩
      intro depth bound rest enough
      rw [← String.length_toList, isText] at enough
      simp only [List.length_cons, List.length_append, String.length_toList] at enough
      cases bound with
      | zero => omega
      | succ bound =>
          have starts := (takes (depth + 1) thing (by simp)).starts.intercalate
            (things.map (written (depth + 1))) (depth + 1)
          have areRead := read_intercalate thing things (takes (depth + 1)) (depth + 1) depth bound
            rest (by omega)
          have skipped := starts.skipBlanks ((newLine depth).toList ++ closing :: rest)
          rw [isText]
          simp only [List.cons_append, List.append_assoc, List.nil_append]
          rw [more, skipBlanks_newLine, List.map_cons, skipped, ← List.map_cons, areRead]
          · rfl
          · rw [skipBlanks_newLine, List.map_cons, skipped]
            rcases starts with ⟨first, others, isFirst, _, notClosed⟩
            rw [isFirst]
            intro further equal
            exact notClosed (List.cons.inj equal).1

theorem readable_array {items : List JsonValue} (readable : ∀ item ∈ items, item.Readable) :
    (array items).Readable := by
  apply readable_of_bracketed readItems '[' ']' writeAt
  · intro depth
    rw [writeAt, writeItems_eq]
    rfl
  · decide
  · intro bound rest
    rfl
  · intro bound text notClosed
    exact readValue_array bound notClosed
  · intro depth item member
    exact takes_item (readable item member) depth

theorem readable_object {members : List (JsonText × JsonValue)}
    (keyed : ∀ member ∈ members, ∃ key, member.1 = some key)
    (readable : ∀ member ∈ members, member.2.Readable) : (object members).Readable := by
  apply readable_of_bracketed readMembers '\x7b' '\x7d' writeMember
  · intro depth
    rw [writeAt, writeMembers_eq]
    rfl
  · decide
  · intro bound rest
    rfl
  · intro bound text notClosed
    exact readValue_object bound notClosed
  · intro depth member isMember
    rcases member with ⟨key, value⟩
    rcases keyed _ isMember with ⟨word, rfl⟩
    exact takes_member word (readable _ isMember) depth

theorem readable_ofTexts (texts : List String) : (ofTexts texts).Readable := by
  apply readable_array
  intro item member
  rcases List.mem_map.mp member with ⟨text, _, rfl⟩
  exact readable_text text

theorem readable_ofFields {fields : List (String × JsonValue)}
    (readable : ∀ field ∈ fields, field.2.Readable) : (ofFields fields).Readable := by
  apply readable_object
  · intro member isMember
    rcases List.mem_map.mp isMember with ⟨field, _, rfl⟩
    exact ⟨field.1, rfl⟩
  · intro member isMember
    rcases List.mem_map.mp isMember with ⟨field, isField, rfl⟩
    exact readable field isField

/-- A readable value is what its text stands for. -/
theorem read?_write {value : JsonValue} (readable : value.Readable) :
    read? value.write = some value := by
  have isRead := readable.read 0 (2 * (value.writeAt 0).toList.length + 2) []
    (by rw [String.length_toList]; omega)
  have skipped := (readable.starts 0).skipBlanks []
  rw [List.append_nil] at isRead skipped
  rw [read?, write, skipped, isRead]
  rfl

end DirectiveScan.JsonValue
