import DirectiveScan.Query.Field

namespace DirectiveScan

/-! What the segments of a path ask for.

A segment that is a word, and not an index or `type`, can only be followed from a node
that has a field of that name. Each lemma below says which nodes these are, so a path
can be read backwards from its end. -/

namespace Field

@[simp] theorem ofExpr_eq_node_iff (expr : Expr) (found : Node) :
    ofExpr expr = .node found ↔ expr = .node found := by
  cases expr <;> simp [ofExpr]

@[simp] theorem ofCallee_eq_node_iff (callee : Callee) (found : Node) :
    ofCallee callee = .node found ↔ callee = .expr (.node found) := by
  cases callee <;> simp [ofCallee]

end Field

/-- The word of a member access: the name after the point, or a plain identifier
between brackets. -/
def MemberName.word? : MemberName → Option String
  | .name word => some word
  | .computed (.node (.identifier word)) => some word
  | _ => none

/-- The word of a key: its name, or a plain identifier between brackets. -/
def PropertyKey.word? : PropertyKey → Option String
  | .name word => some word
  | .computed (.node (.identifier word)) => some word
  | _ => none

namespace Field

theorem ofMemberName_eq_identifier_iff (last : MemberName) (word : String) :
    ofMemberName last = .node (.identifier word) ↔ last.word? = some word := by
  cases last with
  | name found => simp [ofMemberName, MemberName.word?]
  | privateName found => simp [ofMemberName, MemberName.word?]
  | computed property =>
      rw [ofMemberName, ofExpr_eq_node_iff]
      unfold MemberName.word?
      split <;> simp_all

theorem ofKey_eq_identifier_iff (key : PropertyKey) (word : String) :
    ofKey key = .node (.identifier word) ↔ key.word? = some word := by
  cases key with
  | computed inner =>
      rw [ofKey, ofExpr_eq_node_iff]
      unfold PropertyKey.word?
      split <;> simp_all
  | _ => simp [ofKey, PropertyKey.word?]

end Field

/-! ## One segment -/

namespace Node

theorem ownField?_callee_eq_some_iff (found : Node) (next : Field) :
    found.ownField? "callee" = some next ↔
      ∃ start callee arguments types,
        found = .call start callee arguments types ∧ .ofCallee callee = next := by
  constructor
  · intro own
    cases found with
    | call start callee arguments types =>
        exact ⟨start, callee, arguments, types, rfl, Option.some.inj own⟩
    | variableDeclarator declarator =>
        cases declarator
        cases own
    | _ => cases own
  · intro shape
    rcases shape with ⟨start, callee, arguments, types, rfl, rfl⟩
    rfl

theorem ownField?_arguments_eq_some_iff (found : Node) (next : Field) :
    found.ownField? "arguments" = some next ↔
      ∃ start callee arguments types,
        found = .call start callee arguments types ∧ .list (arguments.map .ofExpr) = next := by
  constructor
  · intro own
    cases found with
    | call start callee arguments types =>
        exact ⟨start, callee, arguments, types, rfl, Option.some.inj own⟩
    | variableDeclarator declarator =>
        cases declarator
        cases own
    | _ => cases own
  · intro shape
    rcases shape with ⟨start, callee, arguments, types, rfl, rfl⟩
    rfl

theorem ownField?_object_eq_some_iff (found : Node) (next : Field) :
    found.ownField? "object" = some next ↔
      ∃ owner last, found = .member owner last ∧ .ofExpr owner = next := by
  constructor
  · intro own
    cases found with
    | member owner last => exact ⟨owner, last, rfl, Option.some.inj own⟩
    | variableDeclarator declarator =>
        cases declarator
        cases own
    | _ => cases own
  · intro shape
    rcases shape with ⟨owner, last, rfl, rfl⟩
    rfl

theorem ownField?_property_eq_some_iff (found : Node) (next : Field) :
    found.ownField? "property" = some next ↔
      ∃ owner last, found = .member owner last ∧ .ofMemberName last = next := by
  constructor
  · intro own
    cases found with
    | member owner last => exact ⟨owner, last, rfl, Option.some.inj own⟩
    | variableDeclarator declarator =>
        cases declarator
        cases own
    | _ => cases own
  · intro shape
    rcases shape with ⟨owner, last, rfl, rfl⟩
    rfl

theorem ownField?_key_eq_some_iff (found : Node) (next : Field) :
    found.ownField? "key" = some next ↔
      ∃ key value, found = .property key value ∧ .ofKey key = next := by
  constructor
  · intro own
    cases found with
    | property key value => exact ⟨key, value, rfl, Option.some.inj own⟩
    | variableDeclarator declarator =>
        cases declarator
        cases own
    | _ => cases own
  · intro shape
    rcases shape with ⟨key, value, rfl, rfl⟩
    rfl

theorem ownField?_name_eq_some_iff (found : Node) (next : Field) :
    found.ownField? "name" = some next ↔
      ∃ word, found = .identifier word ∧ .text word = next := by
  constructor
  · intro own
    cases found with
    | identifier word => exact ⟨word, rfl, Option.some.inj own⟩
    | variableDeclarator declarator =>
        cases declarator
        cases own
    | _ => cases own
  · intro shape
    rcases shape with ⟨word, rfl, rfl⟩
    rfl

/-- Three kinds of nodes have a value. Only that of a string literal is a text. -/
theorem ownField?_value_eq_text_iff (found : Node) (text : String) :
    found.ownField? "value" = some (.text text) ↔ found = .string (some text) := by
  constructor
  · intro own
    cases found with
    | property key value =>
        cases value <;> cases own
    | string literal =>
        cases literal with
        | none => cases own
        | some found =>
            cases own
            rfl
    | boolean value => cases own
    | variableDeclarator declarator =>
        cases declarator
        cases own
    | _ => cases own
  · intro equal
    subst equal
    rfl

/-- Of the three kinds of nodes that have a value, only a property can have a node. -/
theorem ownField?_value_eq_node_iff (found held : Node) :
    found.ownField? "value" = some (.node held) ↔
      ∃ key value, found = .property key value ∧ .ofExpr value = Field.node held := by
  constructor
  · intro own
    cases found with
    | property key value => exact ⟨key, value, rfl, Option.some.inj own⟩
    | string literal => cases literal <;> cases own
    | variableDeclarator declarator =>
        cases declarator
        cases own
    | _ => cases own
  · intro shape
    rcases shape with ⟨key, value, rfl, isNode⟩
    exact congrArg some isNode

theorem ownField?_elements_eq_some_iff (found : Node) (next : Field) :
    found.ownField? "elements" = some next ↔
      ∃ elements, found = .array elements ∧ .list (elements.map .ofElement) = next := by
  constructor
  · intro own
    cases found with
    | array elements => exact ⟨elements, rfl, Option.some.inj own⟩
    | variableDeclarator declarator =>
        cases declarator
        cases own
    | _ => cases own
  · intro shape
    rcases shape with ⟨elements, rfl, rfl⟩
    rfl

end Node

namespace Field

/-- A word leads on only from a node. -/
theorem step?_word_eq_some_iff {segment : String} (noIndex : listIndex? segment = none)
    (noType : segment ≠ "type") (field next : Field) :
    field.step? segment = some next ↔
      ∃ found, field = .node found ∧ found.ownField? segment = some next := by
  cases field with
  | node found => simp [step?, Node.field?, noType]
  | list items => simp [step?, noIndex]
  | _ => simp [step?, noType]

/-! ## Paths, read from their end -/

/-- The text at the end of some segments. -/
def textAt? (field : Field) (segments : List String) : Option String :=
  (field.follow? segments).bind text?

theorem textAt?_cons (field : Field) (segment : String) (rest : List String) :
    field.textAt? (segment :: rest) = (field.step? segment).bind (·.textAt? rest) := by
  rw [textAt?, follow?, List.foldlM_cons]
  exact Option.bind_assoc ..

theorem textAt?_nil_eq_some_iff (field : Field) (word : String) :
    field.textAt? [] = some word ↔ field = .text word := by
  cases field <;> simp [textAt?, follow?, text?]

theorem textAt?_name_iff (field : Field) (word : String) :
    field.textAt? ["name"] = some word ↔ field = .node (.identifier word) := by
  rw [textAt?_cons, Option.bind_eq_some_iff]
  simp (disch := decide) only [step?_word_eq_some_iff, Node.ownField?_name_eq_some_iff,
    textAt?_nil_eq_some_iff]
  constructor
  · intro shape
    rcases shape with ⟨next, ⟨found, rfl, word, rfl, rfl⟩, text⟩
    cases text
    rfl
  · intro equal
    subst equal
    exact ⟨.text word, ⟨_, rfl, word, rfl, rfl⟩, rfl⟩

theorem textAt?_property_name_iff (field : Field) (word : String) :
    field.textAt? ["property", "name"] = some word ↔
      ∃ owner last, field = .node (.member owner last) ∧ last.word? = some word := by
  rw [textAt?_cons, Option.bind_eq_some_iff]
  simp (disch := decide) only [step?_word_eq_some_iff, Node.ownField?_property_eq_some_iff,
    textAt?_name_iff]
  constructor
  · intro shape
    rcases shape with ⟨next, ⟨found, rfl, owner, last, rfl, rfl⟩, isWord⟩
    exact ⟨owner, last, rfl, (ofMemberName_eq_identifier_iff last word).mp isWord⟩
  · intro shape
    rcases shape with ⟨owner, last, rfl, isWord⟩
    exact ⟨_, ⟨_, rfl, owner, last, rfl, rfl⟩,
      (ofMemberName_eq_identifier_iff last word).mpr isWord⟩

theorem textAt?_callee_property_name_iff (field : Field) (word : String) :
    field.textAt? ["callee", "property", "name"] = some word ↔
      ∃ start owner last arguments types,
        field = .node (.call start (.expr (.node (.member owner last))) arguments types) ∧
          last.word? = some word := by
  rw [textAt?_cons, Option.bind_eq_some_iff]
  simp (disch := decide) only [step?_word_eq_some_iff, Node.ownField?_callee_eq_some_iff,
    textAt?_property_name_iff]
  constructor
  · intro shape
    rcases shape with
      ⟨next, ⟨found, rfl, start, callee, arguments, types, rfl, rfl⟩, owner, last, isMember, isWord⟩
    rw [(ofCallee_eq_node_iff callee _).mp isMember]
    exact ⟨start, owner, last, arguments, types, rfl, isWord⟩
  · intro shape
    rcases shape with ⟨start, owner, last, arguments, types, rfl, isWord⟩
    exact ⟨_, ⟨_, rfl, start, _, arguments, types, rfl, rfl⟩, owner, last, rfl, isWord⟩

/-- A field below the object of the member that a call calls. -/
theorem textAt?_callee_object_iff (field : Field) (rest : List String) (text : String) :
    field.textAt? ("callee" :: "object" :: rest) = some text ↔
      ∃ start owner last arguments types,
        field = .node (.call start (.expr (.node (.member owner last))) arguments types) ∧
          (ofExpr owner).textAt? rest = some text := by
  simp only [textAt?_cons, Option.bind_eq_some_iff]
  simp (disch := decide) only [step?_word_eq_some_iff, Node.ownField?_callee_eq_some_iff,
    Node.ownField?_object_eq_some_iff]
  constructor
  · intro shape
    rcases shape with
      ⟨next, ⟨found, rfl, start, callee, arguments, types, rfl, rfl⟩,
        object, ⟨member, isMember, owner, last, rfl, rfl⟩, isText⟩
    rw [(ofCallee_eq_node_iff callee _).mp isMember]
    exact ⟨start, owner, last, arguments, types, rfl, isText⟩
  · intro shape
    rcases shape with ⟨start, owner, last, arguments, types, rfl, isText⟩
    exact ⟨_, ⟨_, rfl, start, _, arguments, types, rfl, rfl⟩,
      _, ⟨_, rfl, owner, last, rfl, rfl⟩, isText⟩

theorem textAt?_value_iff (field : Field) (text : String) :
    field.textAt? ["value"] = some text ↔ field = .node (.string (some text)) := by
  rw [textAt?_cons, Option.bind_eq_some_iff]
  simp (disch := decide) only [step?_word_eq_some_iff, textAt?_nil_eq_some_iff]
  constructor
  · intro shape
    rcases shape with ⟨next, ⟨found, rfl, own⟩, rfl⟩
    rw [(Node.ownField?_value_eq_text_iff found text).mp own]
  · intro equal
    subst equal
    exact ⟨.text text, ⟨_, rfl, rfl⟩, rfl⟩

theorem step?_first (items : List Field) : (list items).step? "0" = items.head? := by
  have index : listIndex? "0" = some 0 := by decide
  rw [step?, index]
  cases items <;> rfl

theorem textAt?_arguments_first_value_iff (field : Field) (text : String) :
    field.textAt? ["arguments", "0", "value"] = some text ↔
      ∃ start callee rest types,
        field = .node (.call start callee (.node (.string (some text)) :: rest) types) := by
  rw [textAt?_cons, Option.bind_eq_some_iff]
  simp (disch := decide) only [step?_word_eq_some_iff, Node.ownField?_arguments_eq_some_iff]
  constructor
  · intro shape
    rcases shape with ⟨next, ⟨found, rfl, start, callee, arguments, types, rfl, rfl⟩, isText⟩
    rw [textAt?_cons, step?_first] at isText
    cases arguments with
    | nil => cases isText
    | cons first rest =>
        have isString := (textAt?_value_iff (ofExpr first) text).mp isText
        rw [(ofExpr_eq_node_iff first _).mp isString]
        exact ⟨start, callee, rest, types, rfl⟩
  · intro shape
    rcases shape with ⟨start, callee, rest, types, rfl⟩
    refine ⟨_, ⟨_, rfl, start, callee, _, types, rfl, rfl⟩, ?_⟩
    rw [textAt?_cons, step?_first]
    exact (textAt?_value_iff _ text).mpr rfl

theorem textAt?_key_name_iff (field : Field) (word : String) :
    field.textAt? ["key", "name"] = some word ↔
      ∃ key value, field = .node (.property key value) ∧ key.word? = some word := by
  rw [textAt?_cons, Option.bind_eq_some_iff]
  simp (disch := decide) only [step?_word_eq_some_iff, Node.ownField?_key_eq_some_iff,
    textAt?_name_iff]
  constructor
  · intro shape
    rcases shape with ⟨next, ⟨found, rfl, key, value, rfl, rfl⟩, isWord⟩
    exact ⟨key, value, rfl, (ofKey_eq_identifier_iff key word).mp isWord⟩
  · intro shape
    rcases shape with ⟨key, value, rfl, isWord⟩
    exact ⟨_, ⟨_, rfl, key, value, rfl, rfl⟩, (ofKey_eq_identifier_iff key word).mpr isWord⟩

end Field

namespace Node

theorem deepText?_eq_textAt? (found : Node) {path : String} {segments : List String}
    (cut : Text.split '.' path = segments) :
    found.deepText? path = (Field.node found).textAt? segments := by
  rw [deepText?, deepField?, cut]
  rfl

/-- The first argument of a call, as a field. -/
theorem deepField?_first_argument (start : Nat) (callee : Callee) (arguments : List Expr)
    (types : List Part) :
    (Node.call start callee arguments types).deepField? "arguments.0" =
      arguments.head?.map .ofExpr := by
  have cut : Text.split '.' "arguments.0" = ["arguments", "0"] := by decide
  have first := Field.step?_first (arguments.map .ofExpr)
  rw [deepField?, cut]
  cases arguments with
  | nil => exact congrArg (Option.bind · some) first
  | cons head tail => exact congrArg (Option.bind · some) first

end Node

end DirectiveScan
