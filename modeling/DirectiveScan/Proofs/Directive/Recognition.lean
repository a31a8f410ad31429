import DirectiveScan.Directive.Basic
import DirectiveScan.Proofs.Query.Field
import DirectiveScan.Proofs.Query.Occurrence

namespace DirectiveScan

/-! How registrations, modules and entries are recognized.

They are recognized by a word. The word may be written as a name, and also as a plain
identifier between brackets, although such an identifier stands for its value. The main
statement says exactly what is recognized, and in which programs only names count. -/

/-- A plain identifier between the brackets of a member access. -/
def MemberName.bracketed (word : String) : MemberName := .computed (.node (.identifier word))

/-- A plain identifier between the brackets of a key. -/
def PropertyKey.bracketed (word : String) : PropertyKey := .computed (.node (.identifier word))

theorem MemberName.word?_eq_some_iff (last : MemberName) (word : String) :
    last.word? = some word ↔ last = .name word ∨ last = .bracketed word := by
  unfold MemberName.word? MemberName.bracketed
  split <;> simp_all

theorem PropertyKey.word?_eq_some_iff (key : PropertyKey) (word : String) :
    key.word? = some word ↔ key = .name word ∨ key = .bracketed word := by
  unfold PropertyKey.word? PropertyKey.bracketed
  split <;> simp_all

namespace Node

/-- A call of the given member of something. -/
def CallsMember (found : Node) (last : MemberName) : Prop :=
  ∃ start owner arguments types,
    found = .call start (.expr (.node (.member owner last))) arguments types

/-- A call of a member of the receiver. -/
def CalledOn (found receiver : Node) : Prop :=
  ∃ start last arguments types,
    found = .call start (.expr (.node (.member (.node receiver) last))) arguments types

/-- A call whose first argument is a string literal with the given text. -/
def FirstText (found : Node) (text : String) : Prop :=
  ∃ start callee rest types,
    found = .call start callee (.node (.string (some text)) :: rest) types

theorem callsMember_word_iff (found : Node) (word : String) :
    (∃ start owner last arguments types,
        found = .call start (.expr (.node (.member owner last))) arguments types ∧
          last.word? = some word) ↔
      found.CallsMember (.name word) ∨ found.CallsMember (.bracketed word) := by
  simp only [MemberName.word?_eq_some_iff]
  constructor
  · intro shape
    rcases shape with ⟨start, owner, last, arguments, types, rfl, rfl | rfl⟩
    · exact .inl ⟨start, owner, arguments, types, rfl⟩
    · exact .inr ⟨start, owner, arguments, types, rfl⟩
  · intro shape
    rcases shape with
      ⟨start, owner, arguments, types, rfl⟩ | ⟨start, owner, arguments, types, rfl⟩
    · exact ⟨start, owner, _, arguments, types, rfl, .inl rfl⟩
    · exact ⟨start, owner, _, arguments, types, rfl, .inr rfl⟩

end Node

namespace Directive

/-! ## Registrations -/

theorem isRegistration_iff (found : Node) :
    isRegistration found = true ↔
      found.CallsMember (.name registrationWord) ∨
        found.CallsMember (.bracketed registrationWord) := by
  have cut : Text.split '.' "callee.property.name" = ["callee", "property", "name"] := by
    decide
  have path : found.deepText? "callee.property.name" = some registrationWord ↔
      found.CallsMember (.name registrationWord) ∨
        found.CallsMember (.bracketed registrationWord) := by
    rw [Node.deepText?_eq_textAt? found cut, Field.textAt?_callee_property_name_iff]
    simp only [Field.node.injEq]
    exact Node.callsMember_word_iff found registrationWord
  rw [isRegistration, Bool.and_eq_true, decide_eq_true_iff, decide_eq_true_iff, path]
  constructor
  · intro ⟨_, isCall⟩
    exact isCall
  · intro isCall
    refine ⟨?_, isCall⟩
    rcases isCall with ⟨_, _, _, _, rfl⟩ | ⟨_, _, _, _, rfl⟩ <;> rfl

/-- The registrations of a program are the calls of the member that occur in it. -/
theorem mem_registrations_iff (program : Program) (found : Node) :
    found ∈ registrations (.program program) ↔
      program.Holds found ∧ isRegistration found = true := by
  rw [registrations, Start.findWhere_node, List.mem_filter]
  exact and_congr_left' (Program.mem_walk_iff program found)

/-! ## Modules -/

theorem module?_eq_some_iff (call : Node) (text : String) :
    module? call = some text ↔
      ∃ receiver, call.CalledOn receiver ∧ receiver.FirstText text ∧
        (receiver.CallsMember (.name moduleWord) ∨
          receiver.CallsMember (.bracketed moduleWord)) := by
  have cutWord : Text.split '.' "callee.object.callee.property.name" =
      ["callee", "object", "callee", "property", "name"] := by decide
  have cutText : Text.split '.' "callee.object.arguments.0.value" =
      ["callee", "object", "arguments", "0", "value"] := by decide
  rw [module?, Node.deepText?_eq_textAt? call cutWord, Node.deepText?_eq_textAt? call cutText]
  simp only [Option.ite_none_right_eq_some, Field.textAt?_callee_object_iff,
    Field.textAt?_callee_property_name_iff, Field.textAt?_arguments_first_value_iff,
    Field.node.injEq, Field.ofExpr_eq_node_iff]
  constructor
  · intro shape
    rcases shape with
      ⟨⟨start, owner, last, arguments, types, rfl, isModule⟩, _, _, _, _, _, same, isText⟩
    rcases Node.call.inj same with ⟨rfl, same, rfl, rfl⟩
    cases same
    rcases isModule with ⟨innerStart, innerOwner, innerLast, innerArguments, innerTypes, rfl, word⟩
    rcases isText with ⟨_, _, _, _, isText⟩
    refine ⟨_, ⟨start, last, arguments, types, rfl⟩, ⟨_, _, _, _, Expr.node.inj isText⟩, ?_⟩
    exact (Node.callsMember_word_iff _ moduleWord).mp ⟨_, _, _, _, _, rfl, word⟩
  · intro shape
    rcases shape with
      ⟨receiver, ⟨start, last, arguments, types, rfl⟩, ⟨_, _, _, _, isText⟩, isModule⟩
    rcases (Node.callsMember_word_iff receiver moduleWord).mpr isModule
      with ⟨_, _, innerLast, _, _, isCall, word⟩
    exact ⟨⟨start, _, last, arguments, types, rfl, _, _, innerLast, _, _,
        congrArg Expr.node isCall, word⟩,
      start, _, last, arguments, types, rfl, _, _, _, _, congrArg Expr.node isText⟩

/-! ## Entries -/

/-- The key and value of a property under a word. -/
def entryUnder? (word : String) : Node → Option KeyValue
  | .property key value => if key.word? = some word then some (key, value) else none
  | _ => none

/-- The entries of a call under a word are those properties met in it, in order. -/
theorem entriesNamed_eq (call : Node) (word : String) :
    entriesNamed call word = (Piece.node call).met.filterMap (entryUnder? word) := by
  have cut : Text.split '.' "key.name" = ["key", "name"] := by decide
  let isEntry (found : Node) : Bool :=
    found.kind = .objectProperty && found.deepText? "key.name" = some word
  have search : entriesNamed call word =
      ((Piece.node call).met.filter isEntry).filterMap keyValue? := by
    rw [← call.map_node_walk]
    exact congrArg (List.filterMap keyValue?) (Start.findWhere_node (.node call) isEntry)
  rw [search, List.filterMap_filter]
  congr 1
  funext found
  have path : found.deepText? "key.name" = some word ↔
      ∃ key value, found = .property key value ∧ key.word? = some word := by
    rw [Node.deepText?_eq_textAt? found cut, Field.textAt?_key_name_iff]
    simp only [Field.node.injEq]
  cases found with
  | property key value => simp [isEntry, path, keyValue?, entryUnder?, Node.kind]
  | _ => simp [keyValue?, entryUnder?]

theorem mem_entriesNamed_iff (call : Node) (word : String) (key : PropertyKey) (value : Expr) :
    (key, value) ∈ entriesNamed call word ↔
      (Piece.node call).Holds (.property key value) ∧
        (key = .name word ∨ key = .bracketed word) := by
  rw [entriesNamed_eq, List.mem_filterMap, ← PropertyKey.word?_eq_some_iff,
    ← Piece.mem_met_iff]
  constructor
  · intro ⟨found, member, isEntry⟩
    cases found with
    | property foundKey foundValue =>
        rw [entryUnder?] at isEntry
        split at isEntry
        · cases isEntry
          exact ⟨member, ‹_›⟩
        · cases isEntry
    | _ => cases isEntry
  · intro ⟨member, isWord⟩
    exact ⟨_, member, by simp [entryUnder?, isWord]⟩

end Directive

/-! ## Programs in which only names count -/

theorem Node.CalledOn.unique {call left right : Node} (onLeft : call.CalledOn left)
    (onRight : call.CalledOn right) : left = right := by
  rcases onLeft with ⟨_, _, _, _, rfl⟩
  rcases onRight with ⟨_, _, _, _, same⟩
  cases same
  rfl

theorem Node.CallsMember.unique {call : Node} {left right : MemberName}
    (callsLeft : call.CallsMember left) (callsRight : call.CallsMember right) :
    left = right := by
  rcases callsLeft with ⟨_, _, _, _, rfl⟩
  rcases callsRight with ⟨_, _, _, _, same⟩
  cases same
  rfl

namespace Program

open Directive

/-- Registrations, modules, scopes and templates of a program are recognized only where
their word is written as a name. -/
structure RecognizedByName (program : Program) : Prop where
  registrations : ∀ found, found ∈ registrations (.program program) ↔
    program.Holds found ∧ found.CallsMember (.name registrationWord)
  modules : ∀ call, program.Holds call → ∀ text, module? call = some text →
    ∃ receiver, call.CalledOn receiver ∧ receiver.CallsMember (.name moduleWord)
  entries : ∀ call, program.Holds call → call.kind = .callExpression →
    ∀ word ∈ [scopeKey, templateUrlKey], ∀ key value,
      (key, value) ∈ entriesNamed call word → key = .name word

/-- None of the words stands between brackets where it would be recognized. -/
structure WithoutBracketedWords (program : Program) : Prop where
  registrations : ∀ found, program.Holds found →
    ¬found.CallsMember (.bracketed registrationWord)
  modules : ∀ call receiver text, program.Holds call → call.CalledOn receiver →
    receiver.FirstText text → ¬receiver.CallsMember (.bracketed moduleWord)
  entries : ∀ call, program.Holds call → call.kind = .callExpression →
    ∀ word ∈ [scopeKey, templateUrlKey], ∀ value,
      ¬(Piece.node call).Holds (.property (.bracketed word) value)

theorem RecognizedByName.withoutBracketedWords {program : Program}
    (byName : program.RecognizedByName) : program.WithoutBracketedWords where
  registrations found holds bracketed := by
    have recognized := (mem_registrations_iff program found).mpr
      ⟨holds, (isRegistration_iff found).mpr (.inr bracketed)⟩
    have named := ((byName.registrations found).mp recognized).2
    cases named.unique bracketed
  modules call receiver text holds calledOn isText bracketed := by
    have recognized := (module?_eq_some_iff call text).mpr
      ⟨receiver, calledOn, isText, .inr bracketed⟩
    rcases byName.modules call holds text recognized with ⟨other, otherCalledOn, named⟩
    rw [otherCalledOn.unique calledOn] at named
    cases named.unique bracketed
  entries call holds isCall word isKey value bracketed := by
    have recognized := (mem_entriesNamed_iff call word _ value).mpr ⟨bracketed, .inr rfl⟩
    cases byName.entries call holds isCall word isKey _ value recognized

theorem WithoutBracketedWords.recognizedByName {program : Program}
    (without : program.WithoutBracketedWords) : program.RecognizedByName where
  registrations found := by
    rw [mem_registrations_iff, isRegistration_iff]
    constructor
    · intro ⟨holds, recognized⟩
      rcases recognized with named | bracketed
      · exact ⟨holds, named⟩
      · exact absurd bracketed (without.registrations found holds)
    · intro ⟨holds, named⟩
      exact ⟨holds, .inl named⟩
  modules call holds text recognized := by
    rcases (module?_eq_some_iff call text).mp recognized
      with ⟨receiver, calledOn, isText, named | bracketed⟩
    · exact ⟨receiver, calledOn, named⟩
    · exact absurd bracketed (without.modules call receiver text holds calledOn isText)
  entries call holds isCall word isKey key value recognized := by
    rcases (mem_entriesNamed_iff call word key value).mp recognized with ⟨inCall, rfl | rfl⟩
    · rfl
    · exact absurd inCall (without.entries call holds isCall word isKey value)

/-- Exactly the calls of a member, modules and entries whose word is a name or a plain
identifier between brackets are recognized. Hence only names count in a program if and
only if none of the words stands between brackets in it. -/
theorem recognition_by_word (program : Program) :
    (∀ found, found ∈ Directive.registrations (.program program) ↔
      program.Holds found ∧ (found.CallsMember (.name registrationWord) ∨
        found.CallsMember (.bracketed registrationWord))) ∧
    (∀ call text, module? call = some text ↔
      ∃ receiver, call.CalledOn receiver ∧ receiver.FirstText text ∧
        (receiver.CallsMember (.name moduleWord) ∨
          receiver.CallsMember (.bracketed moduleWord))) ∧
    (∀ call word key value, (key, value) ∈ entriesNamed call word ↔
      (Piece.node call).Holds (.property key value) ∧
        (key = .name word ∨ key = .bracketed word)) ∧
    (program.RecognizedByName ↔ program.WithoutBracketedWords) := by
  refine ⟨fun found => ?_, module?_eq_some_iff, mem_entriesNamed_iff, ?_⟩
  · rw [mem_registrations_iff, isRegistration_iff]
  · exact ⟨RecognizedByName.withoutBracketedWords, WithoutBracketedWords.recognizedByName⟩

/-- In `app[directive]('x', f);` the word only stands for a value, and the call counts as
a registration. -/
theorem bracketed_word_registers :
    ¬(Program.mk .script [.statement (.call 0
      (.expr (.node (.member (.node (.identifier "app")) (.bracketed "directive"))))
      [.node (.string (some "x")), .node (.identifier "f")] [])]).RecognizedByName := by
  intro byName
  have unbracketed := byName.withoutBracketedWords.registrations _
    (Program.holds_of_statement (List.Mem.head _))
  exact unbracketed ⟨_, _, _, _, rfl⟩

end Program

end DirectiveScan
