import DirectiveScan.Proofs.Query.Name

namespace DirectiveScan

/-! Names of calls, and the two ways to write a type assertion.

A name passes over an assertion behind its operand, `value as Type`, and stops at one in front
of it, `<Type>value`. So writing an assertion the other way may take the name of a call away,
or bring it back. -/

/-! ## Two spellings -/

namespace Expr

/-- Expressions that differ at most in how assertions are written, around the expressions, the
objects of their members and what stands between brackets. -/
inductive Respelled : Expr → Expr → Prop
  | same (expr : Expr) : Respelled expr expr
  | wrapped {inner other : Expr} (wrapper : Wrapper) (types : List Part)
      (below : Respelled inner other) :
      Respelled (.wrapped wrapper inner types) (.wrapped wrapper other types)
  | inFront {inner other : Expr} (types : List Part) (below : Respelled inner other) :
      Respelled (.wrapped .asType inner types) (.wrapped .assertion other types)
  | behind {inner other : Expr} (types : List Part) (below : Respelled inner other) :
      Respelled (.wrapped .assertion inner types) (.wrapped .asType other types)
  | member {owner other : Expr} (last : MemberName) (below : Respelled owner other) :
      Respelled (.node (.member owner last)) (.node (.member other last))
  | computed {owner otherOwner property other : Expr} (below : Respelled owner otherOwner)
      (between : Respelled property other) :
      Respelled (.node (.member owner (.computed property)))
        (.node (.member otherOwner (.computed other)))

end Expr

inductive Callee.Respelled : Callee → Callee → Prop
  | same (callee : Callee) : Respelled callee callee
  | expr {expr other : Expr} (respelled : expr.Respelled other) :
      Respelled (.expr expr) (.expr other)

mutual

/-- The spelling in which every assertion stands behind its operand. -/
def Expr.assertedBehind : Expr → Expr
  | .wrapped .assertion inner types => .wrapped .asType inner.assertedBehind types
  | .wrapped wrapper inner types => .wrapped wrapper inner.assertedBehind types
  | .node (.member owner last) => .node (.member owner.assertedBehind last.assertedBehind)
  | .node found => .node found
  | .other shape parts => .other shape parts

def MemberName.assertedBehind : MemberName → MemberName
  | .computed property => .computed property.assertedBehind
  | .name word => .name word
  | .privateName word => .privateName word

end

def Callee.assertedBehind : Callee → Callee
  | .expr callee => .expr callee.assertedBehind
  | .superClass => .superClass
  | .moduleImport => .moduleImport

namespace Callee

/-- The first part from the left that has no text is an assertion in front of its operand. -/
inductive StopsAtAssertion : Callee → Prop
  | base {expr inner : Expr} {types : List Part} {properties : List MemberName}
      (unfolds : expr.Unfolds (.wrapped .assertion inner types) properties) :
      StopsAtAssertion (.expr expr)
  | property {expr base computed inner : Expr} {types : List Part}
      {before after : List MemberName} {front : String}
      (unfolds : expr.Unfolds base (before ++ .computed computed :: after))
      (baseText : base.BaseText (before ++ .computed computed :: after).length front)
      (earlier : ∀ other ∈ before, ∃ text, other.Text text)
      (isAssertion : computed.Core (.wrapped .assertion inner types)) :
      StopsAtAssertion (.expr expr)

/-- The error of a call whose name stops at an assertion. -/
def assertionError : ExtractError := .unhandledNodeShape Wrapper.assertion.tag

end Callee

/-! ## Assertions written behind their operands -/

namespace Expr

theorem assertedBehind_wrapped {wrapper : Wrapper} (inner : Expr) (types : List Part)
    (passed : wrapper ∈ Wrapper.passedOver) :
    (Expr.wrapped wrapper inner types).assertedBehind =
      .wrapped wrapper inner.assertedBehind types := by
  cases wrapper with
  | assertion => exact absurd rfl ((Wrapper.mem_passedOver_iff _).mp passed)
  | _ => rfl

theorem IsBare.node_or_other {expr : Expr} (isBare : expr.IsBare)
    (noAssertion : ∀ inner types, expr ≠ .wrapped .assertion inner types) :
    (∃ found, expr = .node found) ∨ ∃ shape parts, expr = .other shape parts := by
  cases expr with
  | node found => exact .inl ⟨found, rfl⟩
  | other shape parts => exact .inr ⟨shape, parts, rfl⟩
  | wrapped wrapper inner types =>
      by_cases isAssertion : wrapper = .assertion
      · subst isAssertion
        exact absurd rfl (noAssertion inner types)
      · exact absurd isBare (not_isBare_wrapped ((Wrapper.mem_passedOver_iff _).mpr isAssertion))

theorem shape_assertedBehind (expr : Expr) : expr.assertedBehind.shape = expr.shape := by
  cases expr with
  | node found => cases found <;> rfl
  | other shape parts => rfl
  | wrapped wrapper inner types => cases wrapper <;> rfl

theorem eq_of_assertedBehind_eq_string {expr : Expr} {text : Option String}
    (isString : expr.assertedBehind = .node (.string text)) : expr = .node (.string text) := by
  cases expr with
  | node found =>
      cases found with
      | member owner last => cases isString
      | _ => exact isString
  | other shape parts => cases isString
  | wrapped wrapper inner types => cases wrapper <;> cases isString

theorem core_assertedBehind {expr core : Expr} (isCore : expr.Core core)
    (noAssertion : ∀ inner types, core ≠ .wrapped .assertion inner types) :
    expr.assertedBehind.Core core.assertedBehind := by
  induction isCore with
  | bare isBare =>
      rcases isBare.node_or_other noAssertion with ⟨found, rfl⟩ | ⟨shape, parts, rfl⟩
      · cases found <;> exact .bare (isBare_node _)
      · exact .bare isBare
  | wrapped types passed below induction =>
      rw [assertedBehind_wrapped _ types passed]
      exact .wrapped types passed (induction noAssertion)

theorem Unfolds.assertedBehind {expr base : Expr} {properties : List MemberName}
    (unfolds : expr.Unfolds base properties)
    (noAssertion : ∀ inner types, base ≠ .wrapped .assertion inner types) :
    expr.assertedBehind.Unfolds base (properties.map MemberName.assertedBehind) := by
  -- Only around the objects of members and between brackets there is something to respell: the
  -- base itself has neither.
  induction unfolds with
  | @base expr isBare noMember =>
      have same : expr.assertedBehind = expr := by
        rcases isBare.node_or_other noAssertion with ⟨found, rfl⟩ | ⟨shape, parts, rfl⟩
        · cases found with
          | member owner last => exact absurd rfl (noMember owner last)
          | _ => rfl
        · rfl
      rw [same]
      exact .base isBare noMember
  | wrapped types passed below induction =>
      rw [assertedBehind_wrapped _ types passed]
      exact .wrapped types passed (induction noAssertion)
  | member last below induction =>
      rw [List.map_append]
      exact .member _ (induction noAssertion)

theorem BaseText.ne_assertion {base : Expr} {count : Nat} {front : String}
    (baseText : base.BaseText count front) (inner : Expr) (types : List Part) :
    base ≠ .wrapped .assertion inner types := by
  rintro rfl
  cases baseText

end Expr

namespace MemberName

theorem Text.assertedBehind {property : MemberName} {text : String}
    (isText : property.Text text) : property.assertedBehind.Text text := by
  cases isText with
  | name => exact .name _
  | privateName => exact .privateName _
  | computed literal => exact .computed (Expr.core_assertedBehind literal (by simp))

/-- A property offends because of an assertion, or in either spelling. -/
theorem Offends.assertedBehind {property : MemberName} {shape : String}
    (offends : property.Offends shape) :
    (∃ computed inner types, property = .computed computed ∧
      computed.Core (.wrapped .assertion inner types)) ∨
    property.assertedBehind.Offends shape := by
  rcases offends with ⟨computed, core, rfl, isCore, noText, rfl⟩
  by_cases isAssertion : ∃ inner types, core = .wrapped .assertion inner types
  · rcases isAssertion with ⟨inner, types, rfl⟩
    exact .inl ⟨computed, inner, types, rfl, isCore⟩
  · have noAssertion : ∀ inner types, core ≠ .wrapped .assertion inner types :=
      fun inner types same => isAssertion ⟨inner, types, same⟩
    refine .inr ⟨_, _, rfl, Expr.core_assertedBehind isCore noAssertion, ?_,
      (Expr.shape_assertedBehind core).symm⟩
    intro text isString
    exact noText text (Expr.eq_of_assertedBehind_eq_string isString)

end MemberName

/-! ## Names in two spellings -/

namespace Callee

theorem Named.assertedBehind {callee : Callee} {name : String} (named : callee.Named name) :
    callee.assertedBehind.Named name := by
  rcases named with ⟨expr, base, properties, front, texts, rfl, unfolds, baseText, areTexts, rfl⟩
  refine ⟨_, base, _, front, texts, rfl, unfolds.assertedBehind baseText.ne_assertion, ?_, ?_, rfl⟩
  · rw [List.length_map]
    exact baseText
  · exact List.forall₂_map_left_iff.mpr
      (areTexts.imp fun _ _ isText => MemberName.Text.assertedBehind isText)

theorem Offends.assertedBehind {callee : Callee} {shape : String} (offends : callee.Offends shape) :
    callee.StopsAtAssertion ∨ callee.assertedBehind.Offends shape := by
  cases offends with
  | superClass => exact .inr .superClass
  | moduleImport => exact .inr .moduleImport
  | @base expr base properties unfolds noText =>
      by_cases isAssertion : ∃ inner types, base = .wrapped .assertion inner types
      · rcases isAssertion with ⟨inner, types, rfl⟩
        exact .inl (.base unfolds)
      · refine .inr (.base (unfolds.assertedBehind fun inner types same =>
          isAssertion ⟨inner, types, same⟩) ?_)
        rw [List.length_map]
        exact noText
  | @property expr base before after property front shape unfolds baseText earlier offends =>
      rcases offends.assertedBehind with ⟨computed, inner, types, rfl, isAssertion⟩ | offends
      · exact .inl (.property unfolds baseText earlier isAssertion)
      · have behind := unfolds.assertedBehind baseText.ne_assertion
        rw [List.map_append, List.map_cons] at behind
        have baseBehind : base.BaseText (before.map MemberName.assertedBehind ++
            property.assertedBehind :: after.map MemberName.assertedBehind).length front := by
          simpa using baseText
        refine .inr (.property behind baseBehind (fun other member => ?_) offends)
        rcases List.mem_map.mp member with ⟨original, inBefore, rfl⟩
        rcases earlier original inBefore with ⟨text, isText⟩
        exact ⟨text, isText.assertedBehind⟩

theorem name_of_stopsAtAssertion {callee : Callee} (stops : callee.StopsAtAssertion) :
    callee.name = .error assertionError := by
  apply name_of_offends
  cases stops with
  | base unfolds =>
      refine .base unfolds fun text baseText => ?_
      exact absurd rfl (baseText.ne_assertion _ _)
  | property unfolds baseText earlier isAssertion =>
      exact .property unfolds baseText earlier ⟨_, _, rfl, isAssertion, by simp, rfl⟩

/-- A name that does not stop at an assertion is the one of the spelling with all assertions
behind their operands. -/
theorem name_of_not_stopsAtAssertion {callee : Callee} (passes : ¬callee.StopsAtAssertion) :
    callee.name = callee.assertedBehind.name := by
  rcases named_or_offends callee with ⟨name, named⟩ | ⟨shape, offends⟩
  · rw [name_of_named named, name_of_named named.assertedBehind]
  · rcases offends.assertedBehind with stops | behind
    · exact absurd stops passes
    · rw [name_of_offends offends, name_of_offends behind]

end Callee

theorem Expr.Respelled.assertedBehind_eq {expr other : Expr} (respelled : expr.Respelled other) :
    expr.assertedBehind = other.assertedBehind := by
  induction respelled with
  | same => rfl
  | wrapped wrapper types below induction =>
      cases wrapper <;> simp only [Expr.assertedBehind, induction]
  | inFront types below induction => simp only [Expr.assertedBehind, induction]
  | behind types below induction => simp only [Expr.assertedBehind, induction]
  | member last below induction => simp only [Expr.assertedBehind, induction]
  | computed below between ownerInduction propertyInduction =>
      simp only [Expr.assertedBehind, MemberName.assertedBehind, ownerInduction, propertyInduction]

theorem Expr.respelled_assertedBehind (expr : Expr) : expr.Respelled expr.assertedBehind := by
  cases expr with
  | wrapped wrapper inner types =>
      have below := respelled_assertedBehind inner
      cases wrapper with
      | assertion => exact .behind types below
      | _ => exact .wrapped _ types below
  | other shape parts => exact .same _
  | node found =>
      cases found with
      | member owner last =>
          have below := respelled_assertedBehind owner
          cases last with
          | computed property => exact .computed below (respelled_assertedBehind property)
          | _ => exact .member _ below
      | _ => exact .same _

theorem Callee.respelled_assertedBehind (callee : Callee) :
    callee.Respelled callee.assertedBehind := by
  cases callee with
  | expr callee => exact .expr callee.respelled_assertedBehind
  | superClass => exact .same _
  | moduleImport => exact .same _

theorem Callee.Respelled.assertedBehind_eq {callee other : Callee}
    (respelled : callee.Respelled other) : callee.assertedBehind = other.assertedBehind := by
  cases respelled with
  | same => rfl
  | expr respelled => exact congrArg Callee.expr respelled.assertedBehind_eq

theorem Callee.Respelled.name_eq_iff {callee other : Callee} (respelled : callee.Respelled other) :
    callee.name = other.name ↔
      ((callee.StopsAtAssertion ↔ other.StopsAtAssertion) ∨
        callee.assertedBehind.name = .error assertionError) := by
  by_cases stops : callee.StopsAtAssertion <;> by_cases otherStops : other.StopsAtAssertion
  · simp [stops, otherStops, name_of_stopsAtAssertion]
  · rw [name_of_stopsAtAssertion stops, name_of_not_stopsAtAssertion otherStops,
      respelled.assertedBehind_eq]
    simp [stops, otherStops, eq_comm]
  · rw [name_of_not_stopsAtAssertion stops, name_of_stopsAtAssertion otherStops]
    simp [stops, otherStops]
  · rw [name_of_not_stopsAtAssertion stops, name_of_not_stopsAtAssertion otherStops,
      respelled.assertedBehind_eq]
    simp [stops, otherStops]

/-- No spelling changes the name exactly if none stops at an assertion, or if the name is
missing for another reason that shows as the same error. -/
theorem Callee.names_eq_iff (callee : Callee) :
    (∀ other, callee.Respelled other → callee.name = other.name) ↔
      ((∀ other, callee.Respelled other → ¬other.StopsAtAssertion) ∨
        callee.assertedBehind.name = .error assertionError) := by
  constructor
  · intro alike
    by_cases stops : ∃ other, callee.Respelled other ∧ other.StopsAtAssertion
    · -- The name agrees with the missing one and with that of the spelling behind operands.
      rcases stops with ⟨other, respelled, stops⟩
      right
      rw [← alike _ callee.respelled_assertedBehind, alike other respelled,
        name_of_stopsAtAssertion stops]
    · exact .inl fun other respelled stopsAt => stops ⟨other, respelled, stopsAt⟩
  · intro condition other respelled
    rw [respelled.name_eq_iff]
    rcases condition with passes | missing
    · exact .inl (iff_of_false (passes callee (.same callee)) (passes other respelled))
    · exact .inr missing

namespace Node

/-- Calls that differ only in how assertions are written have the same name unless exactly one
of the names stops at an assertion in front of its operand. A name that stops there is missing,
and every other one is that of the spelling with all assertions behind their operands. -/
theorem callName_respelled (start : Nat) (callee : Callee) (arguments : List Expr)
    (types : List Part) :
    (callee.StopsAtAssertion → (call start callee arguments types).callName =
      .error (.unhandledNodeShape "Expression")) ∧
    (¬callee.StopsAtAssertion → (call start callee arguments types).callName =
      (call start callee.assertedBehind arguments types).callName) ∧
    (∀ other, callee.Respelled other →
      ((call start callee arguments types).callName = (call start other arguments types).callName ↔
        ((callee.StopsAtAssertion ↔ other.StopsAtAssertion) ∨
          (call start callee.assertedBehind arguments types).callName =
            .error (.unhandledNodeShape "Expression")))) ∧
    ((∀ other, callee.Respelled other →
      (call start callee arguments types).callName = (call start other arguments types).callName) ↔
        ((∀ other, callee.Respelled other → ¬other.StopsAtAssertion) ∨
          (call start callee.assertedBehind arguments types).callName =
            .error (.unhandledNodeShape "Expression"))) :=
  ⟨Callee.name_of_stopsAtAssertion, Callee.name_of_not_stopsAtAssertion,
    fun _ respelled => respelled.name_eq_iff, callee.names_eq_iff⟩

/-- `(f as T)()` has a name, and `(<T>f)()` has none. -/
theorem assertion_in_front_hides_name :
    let type : List Part := [.construct .typeReference [.node (.identifier "T")]]
    let behind : Callee := .expr
      (.wrapped .parentheses (.wrapped .asType (.node (.identifier "f")) type) [])
    let inFront : Callee := .expr
      (.wrapped .parentheses (.wrapped .assertion (.node (.identifier "f")) type) [])
    behind.Respelled inFront ∧ (call 0 behind [] []).callName = .ok "f" ∧
      (call 0 inFront [] []).callName = .error (.unhandledNodeShape "Expression") := by
  intro type behind inFront
  exact ⟨.expr (.wrapped .parentheses [] (.inFront type (.same _))), rfl, rfl⟩

end Node

end DirectiveScan
