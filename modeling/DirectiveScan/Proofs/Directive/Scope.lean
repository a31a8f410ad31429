import DirectiveScan.Proofs.Extract.FailureCondition
import DirectiveScan.Proofs.Query.Position

namespace DirectiveScan

/-! How the scope of a registration is read.

The number of scope entries in the call decides first. A single entry is read by its value:
an object literal gives the names that it binds, one for every entry and in their order,
unless one of its entries binds none, and then the first such entry is reported. -/

/-! ## Entries of a scope -/

/-- The name that an entry of an object literal binds. -/
inductive Entry.BindsAs : Entry → String → Prop
  | name (word : String) (value : Expr) : BindsAs (.property (.name word) value) word
  | string (text : String) (value : Expr) : BindsAs (.property (.string (some text)) value) text
  | number (number : Decimal) (value : Expr) :
      BindsAs (.property (.number number) value) number.text
  | shorthand (word : String) : BindsAs (.shorthand word) word

/-- The tag under which an entry that binds no name is reported. -/
inductive Entry.RefusedAs : Entry → String → Prop
  | string (value : Expr) : RefusedAs (.property (.string none) value) "StringLiteral"
  | bigInt (value : Expr) : RefusedAs (.property .bigInt value) "BigIntLiteral"
  | computed (key value : Expr) : RefusedAs (.property (.computed key) value) "ComputedPropertyName"
  | initialized (word : String) (value : Expr) :
      RefusedAs (.initialized word value) "AssignmentPattern"
  | method (key : PropertyKey) (parts : List Part) : RefusedAs (.method key parts) "ObjectMethod"
  | spread (value : Expr) : RefusedAs (.spread value) "SpreadElement"

theorem Entry.binds_iff (entry : Entry) : entry.Binds ↔ ∃ name, entry.BindsAs name := by
  constructor
  · intro binds
    cases binds with
    | name word value => exact ⟨_, .name word value⟩
    | string text value => exact ⟨_, .string text value⟩
    | number number value => exact ⟨_, .number number value⟩
    | shorthand word => exact ⟨_, .shorthand word⟩
  · intro ⟨name, bindsAs⟩
    cases bindsAs with
    | name word value => exact .name _ value
    | string text value => exact .string _ value
    | number number value => exact .number number value
    | shorthand word => exact .shorthand _

/-- The tag under which the first entry of a list that binds no name is reported. -/
def Entry.FirstRefused (entries : List Entry) (tag : String) : Prop :=
  ∃ front entry rest, entries = front ++ entry :: rest ∧ (∀ other ∈ front, other.Binds) ∧
    entry.RefusedAs tag

namespace Directive

theorem bindingName_eq_ok_iff (entry : Entry) (name : String) :
    bindingName entry = .ok name ↔ entry.BindsAs name := by
  constructor
  · intro succeeds
    unfold bindingName at succeeds
    split at succeeds <;> cases succeeds
    · exact .name _ _
    · exact .string _ _
    · exact .number _ _
    · exact .shorthand _
  · intro bindsAs
    cases bindsAs <;> rfl

theorem bindingName_eq_error_iff (entry : Entry) (error : ExtractError) :
    bindingName entry = .error error ↔
      ∃ tag, entry.RefusedAs tag ∧ error = .unsupportedScopeForm tag := by
  constructor
  · intro fails
    cases entry with
    | property key value =>
        cases key with
        | string literal =>
            cases literal with
            | none => exact ⟨_, .string value, (Except.error.inj fails).symm⟩
            | some text => cases fails
        | bigInt => exact ⟨_, .bigInt value, (Except.error.inj fails).symm⟩
        | computed key => exact ⟨_, .computed key value, (Except.error.inj fails).symm⟩
        | _ => cases fails
    | shorthand word => cases fails
    | initialized word value =>
        exact ⟨_, .initialized word value, (Except.error.inj fails).symm⟩
    | method key parts => exact ⟨_, .method key parts, (Except.error.inj fails).symm⟩
    | spread value => exact ⟨_, .spread value, (Except.error.inj fails).symm⟩
  · intro ⟨tag, refused, isError⟩
    subst isError
    cases refused <;> rfl

end Directive

/-! ## Going through a list up to the first error -/

section Except

variable {ε β γ : Type} (attempt : β → Except ε γ)

theorem mapM_eq_ok_iff (values : List β) (results : List γ) :
    values.mapM attempt = .ok results ↔
      List.Forall₂ (fun value result => attempt value = .ok result) values results := by
  induction values generalizing results with
  | nil =>
      rw [List.mapM_nil, List.forall₂_nil_left_iff]
      constructor
      · intro same
        exact (Except.ok.inj same).symm
      · intro empty
        rw [empty]
        rfl
  | cons head tail induction =>
      rw [List.mapM_cons, List.forall₂_cons_left_iff]
      constructor
      · intro succeeds
        cases ofHead : attempt head with
        | error error =>
            rw [ofHead] at succeeds
            cases succeeds
        | ok first =>
            cases ofTail : tail.mapM attempt with
            | error error =>
                rw [ofHead, ofTail] at succeeds
                cases succeeds
            | ok others =>
                rw [ofHead, ofTail] at succeeds
                exact ⟨first, others, rfl, (induction others).mp ofTail,
                  (Except.ok.inj succeeds).symm⟩
      · intro ⟨first, others, ofHead, ofTail, isResults⟩
        rw [isResults, ofHead, (induction others).mpr ofTail]
        rfl

theorem mapM_eq_error_iff (values : List β) (error : ε) :
    values.mapM attempt = .error error ↔
      ∃ front value rest, values = front ++ value :: rest ∧
        (∀ other ∈ front, ∃ result, attempt other = .ok result) ∧
        attempt value = .error error := by
  constructor
  · intro fails
    induction values with
    | nil => cases fails
    | cons head tail induction =>
        rw [List.mapM_cons] at fails
        cases ofHead : attempt head with
        | error first =>
            rw [ofHead] at fails
            cases fails
            exact ⟨[], head, tail, rfl, by simp, ofHead⟩
        | ok first =>
            have tailFails : tail.mapM attempt = .error error := by
              cases ofTail : tail.mapM attempt with
              | error other =>
                  rw [ofHead, ofTail] at fails
                  cases fails
                  rfl
              | ok others =>
                  rw [ofHead, ofTail] at fails
                  cases fails
            rcases induction tailFails with ⟨front, value, rest, isTail, succeed, ofValue⟩
            refine ⟨head :: front, value, rest, by rw [isTail]; rfl, ?_, ofValue⟩
            exact List.forall_mem_cons.mpr ⟨⟨first, ofHead⟩, succeed⟩
  · intro ⟨front, value, rest, isValues, succeed, ofValue⟩
    subst isValues
    have found : (front ++ value :: rest)[front.length]? = some value := by simp
    refine mapM_eq_error attempt found ofValue ?_
    intro before less other isOther
    rw [List.getElem?_append_left less] at isOther
    exact succeed other (List.mem_of_getElem? isOther)

end Except

namespace Directive

/-! ## Values of scope entries -/

theorem scopeOf_object_eq_ok_iff (entries : List Entry) (names : List String) :
    scopeOf (.node (.object entries)) = .ok (.bindings names) ↔
      List.Forall₂ Entry.BindsAs entries names := by
  have succeeds : entries.mapM bindingName = .ok names ↔
      List.Forall₂ Entry.BindsAs entries names := by
    rw [mapM_eq_ok_iff]
    simp only [bindingName_eq_ok_iff]
  rw [scopeOf, ← succeeds]
  cases entries.mapM bindingName with
  | ok found => simp [Except.map]
  | error error => simp [Except.map]

theorem scopeOf_object_eq_error_iff (entries : List Entry) (error : ExtractError) :
    scopeOf (.node (.object entries)) = .error error ↔
      ∃ tag, Entry.FirstRefused entries tag ∧ error = .unsupportedScopeForm tag := by
  have fails : entries.mapM bindingName = .error error ↔
      ∃ tag, Entry.FirstRefused entries tag ∧ error = .unsupportedScopeForm tag := by
    rw [mapM_eq_error_iff]
    simp only [bindingName_eq_ok_iff, bindingName_eq_error_iff, ← Entry.binds_iff]
    constructor
    · intro ⟨front, entry, rest, isEntries, bind, tag, refused, isError⟩
      exact ⟨tag, ⟨front, entry, rest, isEntries, bind, refused⟩, isError⟩
    · intro ⟨tag, ⟨front, entry, rest, isEntries, bind, refused⟩, isError⟩
      exact ⟨front, entry, rest, isEntries, bind, tag, refused, isError⟩
  rw [scopeOf, ← fails]
  cases entries.mapM bindingName with
  | ok found => simp [Except.map]
  | error other => simp [Except.map]

theorem scopeOf_of_neither {value : Expr} (noObject : ∀ entries, value ≠ .node (.object entries))
    (noFlag : ∀ flag, value ≠ .node (.boolean flag)) :
    scopeOf value = .error (.unsupportedScopeForm value.shape) := by
  unfold scopeOf
  split
  · next entries => exact absurd rfl (noObject entries)
  · next flag => exact absurd rfl (noFlag flag)
  · rfl

/-! ## The number of scope entries -/

theorem scope_of_single {call : Node} {key : PropertyKey} {value : Expr}
    (single : entriesNamed call scopeKey = [(key, value)]) :
    scope call = (scopeOf value).map some := by
  rw [scope, single, scopeAmong]

/-- A scope is ambiguous exactly if there are several entries, which are then counted. -/
theorem scope_eq_ambiguous_iff (call : Node) (count : Nat) :
    scope call = .error (.ambiguousScopeDeclaration count) ↔
      2 ≤ count ∧ (entriesNamed call scopeKey).length = count := by
  match entries : entriesNamed call scopeKey with
  | [] =>
      rw [scope, entries, List.length_nil]
      constructor
      · intro ambiguous
        cases ambiguous
      · rintro ⟨several, isCount⟩
        omega
  | [entry] =>
      rw [scope_of_single entries, List.length_singleton]
      constructor
      · intro ambiguous
        by_cases declares : entry.2.DeclaresScope
        · rcases scopeOf_of_declaresScope declares with ⟨found, succeeds⟩
          rw [succeeds] at ambiguous
          cases ambiguous
        · rcases scopeOf_of_not_declaresScope declares with ⟨found, fails⟩
          rw [fails] at ambiguous
          cases ambiguous
      · rintro ⟨several, isCount⟩
        omega
  | first :: second :: rest =>
      rw [scope, entries]
      constructor
      · intro ambiguous
        cases ambiguous
        exact ⟨by simp, rfl⟩
      · rintro ⟨_, isCount⟩
        rw [← isCount]
        rfl

/-- A scope entry with a value stands at an address in a call. -/
def ScopeEntryAt (call : Node) (address : Address) (value : Expr) : Prop :=
  ∃ key, (Start.node call).NodeAt address (.property key value) ∧
    (Node.property key value).deepText? "key.name" = some scopeKey

/-- The value of the single scope entry in a call. -/
def OnlyScope (call : Node) (value : Expr) : Prop :=
  ∃ address, ScopeEntryAt call address value ∧
    ∀ other otherValue, ScopeEntryAt call other otherValue → other = address

theorem entryUnder?_eq_some_iff (word : String) (found : Node) (entry : KeyValue) :
    entryUnder? word found = some entry ↔
      found = .property entry.1 entry.2 ∧ found.deepText? "key.name" = some word := by
  have cut : Text.split '.' "key.name" = ["key", "name"] := by decide
  rw [Node.deepText?_eq_textAt? found cut, Field.textAt?_key_name_iff]
  cases found with
  | property key value =>
      by_cases isWord : key.word? = some word
      · simp [entryUnder?, isWord, Prod.ext_iff]
      · simp [entryUnder?, isWord]
  | _ => simp [entryUnder?]

end Directive

/-- A search without repetition finds a single result if and only if there is a single
value with a result. -/
theorem filterMap_eq_singleton_iff {α β : Type} {values : List α} (nodup : values.Nodup)
    (result? : α → Option β) (result : β) :
    values.filterMap result? = [result] ↔
      ∃ value ∈ values, result? value = some result ∧
        ∀ other ∈ values, ∀ found, result? other = some found → other = value := by
  constructor
  · intro single
    rcases List.filterMap_eq_cons_iff.mp single
      with ⟨before, value, after, isValues, noneBefore, isResult, noneAfter⟩
    rw [List.filterMap_eq_nil_iff] at noneAfter
    subst isValues
    refine ⟨value, by simp, isResult, fun other member found isFound => ?_⟩
    rcases List.mem_append.mp member with isBefore | isAfter
    · rw [noneBefore other isBefore] at isFound
      cases isFound
    · rcases List.mem_cons.mp isAfter with same | isAfter
      · exact same
      · rw [noneAfter other isAfter] at isFound
        cases isFound
  · intro ⟨value, member, isResult, unique⟩
    rcases List.append_of_mem member with ⟨before, after, isValues⟩
    subst isValues
    have ⟨_, nodupValue, apart⟩ := List.nodup_append.mp nodup
    have notAfter := (List.nodup_cons.mp nodupValue).1
    have noResult {other : α} (isOther : other ∈ before ++ value :: after)
        (different : other ≠ value) : result? other = none := by
      cases isFound : result? other with
      | none => rfl
      | some found => exact absurd (unique other isOther found isFound) different
    refine List.filterMap_eq_cons_iff.mpr ⟨before, value, after, rfl, ?_, isResult, ?_⟩
    · intro other isBefore
      exact noResult (by simp [isBefore]) (apart other isBefore value List.mem_cons_self)
    · refine List.filterMap_eq_nil_iff.mpr fun other isAfter => ?_
      exact noResult (by simp [isAfter]) fun same => notAfter (same ▸ isAfter)

namespace Directive

theorem entriesNamed_eq_occurrences (call : Node) (word : String) :
    entriesNamed call word = ((Start.node call).addresses.zip (Start.node call).walk).filterMap
      fun occurrence => entryUnder? word occurrence.2.node := by
  rw [entriesNamed_eq]
  calc (Piece.node call).met.filterMap (entryUnder? word)
      = ((Start.node call).walk.map Visit.node).filterMap (entryUnder? word) := by
        rw [← call.map_node_walk]
        rfl
    _ = ((((Start.node call).addresses.zip (Start.node call).walk).map Prod.snd).map
          Visit.node).filterMap (entryUnder? word) := by rw [Start.map_snd_occurrences]
    _ = _ := by
      rw [List.filterMap_map, List.filterMap_map]
      rfl

/-- A call has a single scope entry if and only if the search for entries finds it alone. -/
theorem onlyScope_iff (call : Node) (value : Expr) :
    OnlyScope call value ↔ ∃ key, entriesNamed call scopeKey = [(key, value)] := by
  simp only [entriesNamed_eq_occurrences,
    filterMap_eq_singleton_iff (Start.node call).nodup_occurrences, entryUnder?_eq_some_iff]
  constructor
  · intro ⟨address, ⟨key, isNode, isScope⟩, unique⟩
    rcases ((Start.node call).nodeAt_iff_offers _ _).mp isNode with ⟨visit, offers, isEntry⟩
    refine ⟨key, (address, visit), offers, ⟨isEntry, isEntry ▸ isScope⟩, ?_⟩
    intro ⟨other, otherVisit⟩ otherOffers ⟨otherKey, otherValue⟩ ⟨isOther, otherScope⟩
    have otherNode := ((Start.node call).nodeAt_iff_offers _ _).mpr ⟨_, otherOffers, isOther⟩
    -- Only one node is met at an address, so equal addresses give equal occurrences.
    have same := unique other otherValue ⟨otherKey, otherNode, isOther ▸ otherScope⟩
    subst same
    rw [Start.Offers.unique otherOffers offers]
  · intro ⟨key, ⟨address, visit⟩, offers, ⟨isEntry, isScope⟩, unique⟩
    have isNode := ((Start.node call).nodeAt_iff_offers _ _).mpr ⟨_, offers, isEntry⟩
    refine ⟨address, ⟨key, isNode, isEntry ▸ isScope⟩, ?_⟩
    intro other otherValue ⟨otherKey, otherNode, otherScope⟩
    rcases ((Start.node call).nodeAt_iff_offers _ _).mp otherNode
      with ⟨otherVisit, otherOffers, isOther⟩
    have same := unique (other, otherVisit) otherOffers (otherKey, otherValue)
      ⟨isOther, isOther ▸ otherScope⟩
    exact congrArg Prod.fst same

/-! ## The main statement -/

/-- A call with a shorthand scope entry has an entry whose value is the word itself. -/
theorem mem_entriesNamed_of_shorthand {call : Node} {entries : List Entry} {word : String}
    (holds : (Piece.node call).Holds (.object entries)) (member : .shorthand word ∈ entries) :
    (.name word, .node (.identifier word)) ∈ entriesNamed call word := by
  have inLiteral : (Piece.node (.object entries)).Holds
      (.property (.name word) (.node (.identifier word))) :=
    .inside (List.mem_map_of_mem member) (.inside (List.mem_singleton_self _) (.here _))
  exact (mem_entriesNamed_iff ..).mpr ⟨holds.trans inLiteral, .inl rfl⟩

/-- The scope of a call with a single scope entry is read from the value of the entry. An
object literal declares one name for each of its entries, in their order, exactly if every
entry binds one; otherwise the first entry that binds none is reported. A flag is a scope,
and everything else is reported with its shape, as is a shorthand entry. -/
theorem scope_of_single_entry (call : Node) (value : Expr) (only : OnlyScope call value) :
    (∀ entries, value = .node (.object entries) →
      (∀ names, scope call = .ok (some (.bindings names)) ↔
        List.Forall₂ Entry.BindsAs entries names) ∧
      ((∃ names, scope call = .ok (some (.bindings names))) ↔ ∀ entry ∈ entries, entry.Binds) ∧
      ((¬∀ entry ∈ entries, entry.Binds) →
        ∃ tag, Entry.FirstRefused entries tag ∧
          scope call = .error (.unsupportedScopeForm tag)) ∧
      (∀ tag, Entry.FirstRefused entries tag →
        scope call = .error (.unsupportedScopeForm tag))) ∧
    (∀ flag, value = .node (.boolean flag) → scope call = .ok (some (.isolate flag))) ∧
    ((∀ entries, value ≠ .node (.object entries)) → (∀ flag, value ≠ .node (.boolean flag)) →
      scope call = .error (.unsupportedScopeForm value.shape)) ∧
    (∀ entries, (Piece.node call).Holds (.object entries) → .shorthand scopeKey ∈ entries →
      scope call = .error (.unsupportedScopeForm "Identifier")) := by
  rcases (onlyScope_iff call value).mp only with ⟨key, single⟩
  have isScope := scope_of_single single
  refine ⟨fun entries isObject => ?_, fun flag isFlag => ?_, fun noObject noFlag => ?_,
    fun entries holds member => ?_⟩
  · subst isObject
    have succeeds (names : List String) : scope call = .ok (some (.bindings names)) ↔
        List.Forall₂ Entry.BindsAs entries names := by
      rw [isScope, ← scopeOf_object_eq_ok_iff]
      cases scopeOf (.node (.object entries)) <;> simp [Except.map]
    have fails (tag : String) (refused : Entry.FirstRefused entries tag) :
        scope call = .error (.unsupportedScopeForm tag) := by
      rw [isScope, (scopeOf_object_eq_error_iff entries _).mpr ⟨tag, refused, rfl⟩]
      rfl
    have declares (bind : ∀ entry ∈ entries, entry.Binds) :
        ∃ names, scope call = .ok (some (.bindings names)) := by
      rcases mapM_bindingName_of_binds bind with ⟨names, isNames⟩
      refine ⟨names, ?_⟩
      rw [isScope, scopeOf, isNames]
      rfl
    have refuses (unsupported : ¬∀ entry ∈ entries, entry.Binds) :
        ∃ tag, Entry.FirstRefused entries tag ∧
          scope call = .error (.unsupportedScopeForm tag) := by
      have ofValue : ¬(Expr.node (.object entries)).DeclaresScope := by
        intro declared
        cases declared with
        | bindings _ bind => exact unsupported bind
      rcases scopeOf_of_not_declaresScope ofValue with ⟨found, isError⟩
      rcases (scopeOf_object_eq_error_iff entries _).mp isError with ⟨tag, refused, _⟩
      exact ⟨tag, refused, fails tag refused⟩
    refine ⟨succeeds, ⟨?_, declares⟩, refuses, fails⟩
    rintro ⟨names, isNames⟩
    by_contra unsupported
    rcases refuses unsupported with ⟨tag, _, isError⟩
    cases isNames.symm.trans isError
  · rw [isScope, isFlag]
    rfl
  · rw [isScope, scopeOf_of_neither noObject noFlag]
    rfl
  · have found := mem_entriesNamed_of_shorthand holds member
    rw [single, List.mem_singleton] at found
    rw [isScope, ← (Prod.mk.inj found).2]
    rfl

/-- A registration with an object literal, called on something. -/
def registrationOn (receiver : Node) (name : String) (entries : List Entry) : Node :=
  .call 0 (.expr (.node (.member (.node receiver) (.name registrationWord))))
    [.node (.string (some name)), .node (.object entries)] []

/-- `app.directive('shop', { scope: { title: '@', cats, 'title': '=' } })` binds a name
twice, and both are read. -/
theorem repeated_name_kept :
    let value : Expr := .node (.object [.property (.name "title") (.node (.string (some "@"))),
      .shorthand "cats", .property (.string (some "title")) (.node (.string (some "=")))])
    let call := registrationOn (.identifier "app") "shop" [.property (.name scopeKey) value]
    OnlyScope call value ∧ scope call = .ok (some (.bindings ["title", "cats", "title"])) := by
  intro value call
  have only : OnlyScope call value := by
    refine (onlyScope_iff call value).mpr ⟨.name scopeKey, ?_⟩
    rw [entriesNamed_eq]
    rfl
  have names := ((scope_of_single_entry call value only).1 _ rfl).1
  refine ⟨only, (names _).mpr ?_⟩
  exact .cons (.name ..) (.cons (.shorthand _) (.cons (.string ..) .nil))

end Directive

end DirectiveScan
