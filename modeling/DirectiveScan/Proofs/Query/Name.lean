import DirectiveScan.Query.Name
import Mathlib.Data.List.Forall2
import Mathlib.Logic.ExistsUnique

namespace DirectiveScan

/-! Names of calls, read along chains of members.

What is called unfolds through member accesses into a base and the properties behind it,
from left to right; wrappers are passed over at every level. The name of the call is the
text of the base and the texts of the properties, divided by points. If a part has no
text, the call has no name, and the part furthest to the left is the one that is
reported. -/

/-! ## Wrappers and chains -/

/-- The wrappers that names pass over. An assertion in front of its operand is not among
them. -/
def Wrapper.passedOver : List Wrapper := [.parentheses, .asType, .asConst, .satisfies, .nonNull]

namespace Expr

def IsBare (expr : Expr) : Prop :=
  ∀ wrapper inner types, wrapper ∈ Wrapper.passedOver → expr ≠ .wrapped wrapper inner types

/-- An expression and what is left of it without the wrappers around it. -/
inductive Core : Expr → Expr → Prop
  | bare {expr : Expr} (isBare : expr.IsBare) : Core expr expr
  | wrapped {wrapper : Wrapper} {inner core : Expr} (types : List Part)
      (passed : wrapper ∈ Wrapper.passedOver) (below : Core inner core) :
      Core (.wrapped wrapper inner types) core

/-- An expression, the base that its members start from, and the properties behind the
base. -/
inductive Unfolds : Expr → Expr → List MemberName → Prop
  | base {expr : Expr} (isBare : expr.IsBare)
      (noMember : ∀ owner last, expr ≠ .node (.member owner last)) : Unfolds expr expr []
  | wrapped {wrapper : Wrapper} {inner base : Expr} {properties : List MemberName}
      (types : List Part) (passed : wrapper ∈ Wrapper.passedOver)
      (below : Unfolds inner base properties) :
      Unfolds (.wrapped wrapper inner types) base properties
  | member {owner base : Expr} {properties : List MemberName} (last : MemberName)
      (below : Unfolds owner base properties) :
      Unfolds (.node (.member owner last)) base (properties ++ [last])

/-- The text of a base before the given number of properties. -/
inductive BaseText : Nat → Expr → String → Prop
  | identifier (count : Nat) (name : String) : BaseText count (.node (.identifier name)) name
  | calledCall (start : Nat) (callee : Callee) (arguments : List Expr) (types : List Part) :
      BaseText 0 (.node (.call start callee arguments types)) "(CallExpression)"
  | callInMember (count start : Nat) (callee : Callee) (arguments : List Expr)
      (types : List Part) :
      BaseText (count + 1) (.node (.call start callee arguments types))
        "(CallExpressionInMember)"
  | arrayInMember (count : Nat) (elements : List Element) :
      BaseText (count + 1) (.node (.array elements)) "(ArrayExpressionInMember)"

end Expr

namespace MemberName

inductive Text : MemberName → String → Prop
  | name (word : String) : Text (.name word) word
  | privateName (word : String) : Text (.privateName word) ("#" ++ word)
  | computed {property : Expr} {text : String}
      (literal : property.Core (.node (.string (some text)))) : Text (.computed property) text

/-- A property without a text, and the shape of what stands between its brackets. -/
def Offends (property : MemberName) (shape : String) : Prop :=
  ∃ computed core, property = .computed computed ∧ computed.Core core ∧
    (∀ text, core ≠ .node (.string (some text))) ∧ shape = core.shape

end MemberName

namespace Callee

/-- The name of what is called: the texts of its parts from left to right. -/
def Named (callee : Callee) (name : String) : Prop :=
  ∃ expr base properties front texts,
    callee = .expr expr ∧ expr.Unfolds base properties ∧
    base.BaseText properties.length front ∧ List.Forall₂ MemberName.Text properties texts ∧
    name = front ++ String.join (texts.map ("." ++ ·))

/-- The shape of the first part from the left that has no text. -/
inductive Offends : Callee → String → Prop
  | superClass : Offends .superClass "Super"
  | moduleImport : Offends .moduleImport "Import"
  | base {expr base : Expr} {properties : List MemberName}
      (unfolds : expr.Unfolds base properties)
      (noText : ∀ text, ¬base.BaseText properties.length text) : Offends (.expr expr) base.shape
  | property {expr base : Expr} {before after : List MemberName} {property : MemberName}
      {front shape : String} (unfolds : expr.Unfolds base (before ++ property :: after))
      (baseText : base.BaseText (before ++ property :: after).length front)
      (earlier : ∀ other ∈ before, ∃ text, other.Text text) (offends : property.Offends shape) :
      Offends (.expr expr) shape

end Callee

/-! ## Below the wrappers -/

theorem Wrapper.mem_passedOver_iff (wrapper : Wrapper) :
    wrapper ∈ passedOver ↔ wrapper ≠ .assertion := by
  cases wrapper <;> decide

namespace Expr

theorem isBare_node (node : Node) : (Expr.node node).IsBare := by
  intro wrapper inner types _ equal
  cases equal

theorem isBare_other (shape : ExprShape) (parts : List Part) : (Expr.other shape parts).IsBare := by
  intro wrapper inner types _ equal
  cases equal

theorem isBare_assertion (inner : Expr) (types : List Part) :
    (Expr.wrapped .assertion inner types).IsBare := by
  intro wrapper other otherTypes passed equal
  cases equal
  exact (Wrapper.mem_passedOver_iff _).mp passed rfl

theorem not_isBare_wrapped {wrapper : Wrapper} {inner : Expr} {types : List Part}
    (passed : wrapper ∈ Wrapper.passedOver) : ¬(Expr.wrapped wrapper inner types).IsBare :=
  fun isBare => isBare wrapper inner types passed rfl

theorem core_unwrap (expr : Expr) : expr.Core expr.unwrap := by
  fun_induction unwrap expr with
  | case1 inner types => exact .bare (isBare_assertion inner types)
  | case2 wrapper inner types notAssertion induction =>
      exact .wrapped types ((Wrapper.mem_passedOver_iff wrapper).mpr notAssertion) induction
  | case3 node => exact .bare (isBare_node node)
  | case4 shape parts => exact .bare (isBare_other shape parts)

theorem unwrap_of_isBare {expr : Expr} (isBare : expr.IsBare) : expr.unwrap = expr := by
  fun_cases unwrap expr with
  | case2 wrapper inner types notAssertion =>
      exact absurd isBare (not_isBare_wrapped ((Wrapper.mem_passedOver_iff wrapper).mpr notAssertion))
  | _ => rfl

theorem unwrap_wrapped {wrapper : Wrapper} (inner : Expr) (types : List Part)
    (passed : wrapper ∈ Wrapper.passedOver) :
    (Expr.wrapped wrapper inner types).unwrap = inner.unwrap := by
  cases wrapper with
  | assertion => exact absurd rfl ((Wrapper.mem_passedOver_iff _).mp passed)
  | _ => rfl

theorem core_iff (expr core : Expr) : expr.Core core ↔ core = expr.unwrap := by
  constructor
  · intro isCore
    induction isCore with
    | bare isBare => exact (unwrap_of_isBare isBare).symm
    | wrapped types passed below induction => rw [unwrap_wrapped _ types passed, induction]
  · intro equal
    rw [equal]
    exact core_unwrap expr

theorem objectName_wrapped {wrapper : Wrapper} (inner : Expr) (types : List Part)
    (passed : wrapper ∈ Wrapper.passedOver) :
    (Expr.wrapped wrapper inner types).objectName = inner.objectName := by
  cases wrapper with
  | assertion => exact absurd rfl ((Wrapper.mem_passedOver_iff _).mp passed)
  | _ => simp only [objectName]

/-! ## Unfolding -/

theorem exists_unfolds (expr : Expr) : ∃ base properties, expr.Unfolds base properties := by
  fun_induction objectName expr with
  | case1 inner types => exact ⟨_, _, .base (isBare_assertion inner types) (by simp)⟩
  | case2 wrapper inner types notAssertion induction =>
      rcases induction with ⟨base, properties, unfolds⟩
      have passed := (Wrapper.mem_passedOver_iff wrapper).mpr notAssertion
      exact ⟨base, properties, .wrapped types passed unfolds⟩
  | case3 name => exact ⟨_, _, .base (isBare_node _) (by simp)⟩
  | case4 start callee arguments types => exact ⟨_, _, .base (isBare_node _) (by simp)⟩
  | case5 elements => exact ⟨_, _, .base (isBare_node _) (by simp)⟩
  | case6 owner last induction =>
      rcases induction with ⟨base, properties, unfolds⟩
      exact ⟨base, _, .member last unfolds⟩
  | case7 found _ _ _ noMember =>
      refine ⟨_, _, .base (isBare_node found) ?_⟩
      intro owner last equal
      exact noMember owner last (Expr.node.inj equal)
  | case8 shape parts => exact ⟨_, _, .base (isBare_other shape parts) (by simp)⟩

theorem Unfolds.unique {expr base otherBase : Expr} {properties otherProperties : List MemberName}
    (unfolds : expr.Unfolds base properties) (other : expr.Unfolds otherBase otherProperties) :
    otherBase = base ∧ otherProperties = properties := by
  induction unfolds generalizing otherBase otherProperties with
  | base isBare noMember =>
      cases other with
      | base => exact ⟨rfl, rfl⟩
      | wrapped types passed below => exact absurd isBare (not_isBare_wrapped passed)
      | member last below => exact absurd rfl (noMember _ last)
  | wrapped types passed below induction =>
      cases other with
      | base isBare => exact absurd isBare (not_isBare_wrapped passed)
      | wrapped types passed otherBelow => exact induction otherBelow
  | member last below induction =>
      cases other with
      | base isBare noMember => exact absurd rfl (noMember _ last)
      | member last otherBelow =>
          rcases induction otherBelow with ⟨sameBase, sameProperties⟩
          exact ⟨sameBase, congrArg (· ++ [last]) sameProperties⟩

/-! ## The name of a chain -/

end Expr

namespace Name

/-- A name followed by one more property. -/
def extend (front : String) (property : MemberName) : Except ExtractError String :=
  (ofMemberName property).map fun word => front ++ "." ++ word

theorem ofMemberName_of_text {property : MemberName} {text : String}
    (isText : property.Text text) : ofMemberName property = .ok text := by
  cases isText with
  | name => rfl
  | privateName word => rfl
  | computed literal =>
      have unwrapped := (Expr.core_iff _ _).mp literal
      rw [ofMemberName, ← unwrapped]

theorem ofMemberName_of_offends {property : MemberName} {shape : String}
    (offends : property.Offends shape) :
    ofMemberName property = .error (.unhandledNodeShape shape) := by
  rcases offends with ⟨computed, core, rfl, isCore, noText, rfl⟩
  have unwrapped := (Expr.core_iff _ _).mp isCore
  rw [ofMemberName, ← unwrapped]
  split
  · next text => exact absurd rfl (noText text)
  · rfl

theorem text_or_offends (property : MemberName) :
    (∃ text, property.Text text) ∨ ∃ shape, property.Offends shape := by
  cases property with
  | name word => exact .inl ⟨word, .name word⟩
  | privateName word => exact .inl ⟨_, .privateName word⟩
  | computed inner =>
      by_cases literal : ∃ text, inner.unwrap = .node (.string (some text))
      · rcases literal with ⟨text, isText⟩
        exact .inl ⟨text, .computed ((Expr.core_iff _ _).mpr isText.symm)⟩
      · exact .inr ⟨_, inner, _, rfl, inner.core_unwrap, not_exists.mp literal, rfl⟩

theorem foldlM_extend_of_texts {properties : List MemberName} {texts : List String}
    (front : String) (areTexts : List.Forall₂ MemberName.Text properties texts) :
    properties.foldlM extend front = .ok (front ++ String.join (texts.map ("." ++ ·))) := by
  induction areTexts generalizing front with
  | nil => simp [pure, Except.pure]
  | cons isText _ induction =>
      rw [List.foldlM_cons, extend, ofMemberName_of_text isText]
      refine (induction _).trans ?_
      simp [String.append_assoc]

/-- What stands before the first property without a text does not change the error. -/
theorem foldlM_extend_of_offends {before after : List MemberName} {property : MemberName}
    {shape : String} (front : String) (earlier : ∀ other ∈ before, ∃ text, other.Text text)
    (offends : property.Offends shape) :
    (before ++ property :: after).foldlM extend front = .error (.unhandledNodeShape shape) := by
  induction before generalizing front with
  | nil =>
      rw [List.nil_append, List.foldlM_cons, extend, ofMemberName_of_offends offends]
      rfl
  | cons first rest induction =>
      rcases earlier first List.mem_cons_self with ⟨text, isText⟩
      rw [List.cons_append, List.foldlM_cons, extend, ofMemberName_of_text isText]
      exact induction _ fun other member => earlier other (List.mem_cons_of_mem _ member)

/-- Either all properties have texts, or one of them is the first without. -/
theorem texts_or_offends (properties : List MemberName) :
    (∃ texts, List.Forall₂ MemberName.Text properties texts) ∨
      ∃ before property after shape, properties = before ++ property :: after ∧
        (∀ other ∈ before, ∃ text, other.Text text) ∧ property.Offends shape := by
  induction properties with
  | nil => exact .inl ⟨[], .nil⟩
  | cons first rest induction =>
      rcases text_or_offends first with ⟨text, isText⟩ | ⟨shape, offends⟩
      · rcases induction with ⟨texts, areTexts⟩ |
          ⟨before, property, after, shape, rfl, earlier, offends⟩
        · exact .inl ⟨text :: texts, .cons isText areTexts⟩
        · exact .inr ⟨first :: before, property, after, shape, rfl,
            List.forall_mem_cons.mpr ⟨⟨text, isText⟩, earlier⟩, offends⟩
      · exact .inr ⟨[], first, rest, shape, rfl, by simp, offends⟩

end Name

namespace Expr

/-- The name of a chain starts with its base and is extended by every property. -/
theorem objectName_of_unfolds {expr base : Expr} {properties : List MemberName}
    (unfolds : expr.Unfolds base properties) :
    expr.objectName = base.objectName.bind (properties.foldlM Name.extend) := by
  induction unfolds with
  | @base expr isBare noMember => cases expr.objectName <;> rfl
  | wrapped types passed below induction => rw [objectName_wrapped _ types passed, induction]
  | @member owner base properties last below induction =>
      rw [objectName, induction]
      cases base.objectName with
      | error error => rfl
      | ok front =>
          rw [Except.bind, Except.bind, List.foldlM_append]
          cases properties.foldlM Name.extend front with
          | error error => rfl
          | ok soFar => cases read : Name.ofMemberName last <;> simp [Name.extend, read] <;> rfl

theorem Unfolds.isBase {expr base : Expr} {properties : List MemberName}
    (unfolds : expr.Unfolds base properties) :
    base.IsBare ∧ ∀ owner last, base ≠ .node (.member owner last) := by
  induction unfolds with
  | base isBare noMember => exact ⟨isBare, noMember⟩
  | wrapped types passed below induction => exact induction
  | member last below induction => exact induction

theorem objectName_of_baseText {base : Expr} {count : Nat} {front : String}
    (baseText : base.BaseText (count + 1) front) : base.objectName = .ok front := by
  cases baseText <;> rw [objectName] <;> rfl

theorem objectName_of_no_baseText {base : Expr} {count : Nat} (isBare : base.IsBare)
    (noMember : ∀ owner last, base ≠ .node (.member owner last))
    (noText : ∀ text, ¬base.BaseText (count + 1) text) :
    base.objectName = .error (.unhandledNodeShape base.shape) := by
  fun_cases objectName base with
  | case2 wrapper inner types notAssertion =>
      exact absurd isBare (not_isBare_wrapped ((Wrapper.mem_passedOver_iff wrapper).mpr notAssertion))
  | case3 name => exact absurd (.identifier _ name) (noText name)
  | case4 start callee arguments types =>
      exact absurd (.callInMember count start callee arguments types) (noText _)
  | case5 elements => exact absurd (.arrayInMember count elements) (noText _)
  | case6 owner last => exact absurd rfl (noMember owner last)
  | _ => rfl

end Expr

namespace Callee

open Expr (Unfolds)

theorem name_wrapped {wrapper : Wrapper} (inner : Expr) (types : List Part)
    (passed : wrapper ∈ Wrapper.passedOver) :
    (Callee.expr (.wrapped wrapper inner types)).name = (Callee.expr inner).name := by
  rw [name, name, Expr.unwrap_wrapped inner types passed]

theorem name_of_unfolds_nil {expr base : Expr} (unfolds : expr.Unfolds base []) :
    (Callee.expr expr).name = (Callee.expr base).name := by
  generalize noProperties : ([] : List MemberName) = properties at unfolds
  induction unfolds with
  | base => rfl
  | wrapped types passed below induction =>
      rw [name_wrapped _ types passed, induction noProperties]
  | member last below => simp at noProperties

theorem name_of_unfolds_cons {expr base : Expr} {property : MemberName} {rest : List MemberName}
    (unfolds : expr.Unfolds base (property :: rest)) :
    (Callee.expr expr).name = expr.objectName := by
  generalize someProperties : property :: rest = properties at unfolds
  induction unfolds with
  | base => cases someProperties
  | wrapped types passed below induction =>
      rw [name_wrapped _ types passed, Expr.objectName_wrapped _ types passed,
        induction someProperties]
  | member last below => rfl

theorem name_of_baseText {expr base : Expr} {properties : List MemberName} {front : String}
    (unfolds : expr.Unfolds base properties)
    (baseText : base.BaseText properties.length front) :
    (Callee.expr expr).name = properties.foldlM Name.extend front := by
  cases properties with
  | nil =>
      rw [name_of_unfolds_nil unfolds]
      cases baseText <;> rfl
  | cons property rest =>
      rw [name_of_unfolds_cons unfolds, Expr.objectName_of_unfolds unfolds,
        Expr.objectName_of_baseText baseText]
      rfl

theorem name_of_no_baseText {expr base : Expr} {properties : List MemberName}
    (unfolds : expr.Unfolds base properties)
    (noText : ∀ text, ¬base.BaseText properties.length text) :
    (Callee.expr expr).name = .error (.unhandledNodeShape base.shape) := by
  rcases unfolds.isBase with ⟨isBare, noMember⟩
  cases properties with
  | nil =>
      rw [name_of_unfolds_nil unfolds, name, Expr.unwrap_of_isBare isBare]
      split
      · next name => exact absurd (.identifier 0 name) (noText name)
      · next start callee arguments types =>
          exact absurd (.calledCall start callee arguments types) (noText _)
      · next owner last => exact absurd rfl (noMember owner last)
      · rfl
  | cons property rest =>
      rw [name_of_unfolds_cons unfolds, Expr.objectName_of_unfolds unfolds,
        Expr.objectName_of_no_baseText isBare noMember noText]
      rfl

/-! ## Names and offending parts -/

theorem name_of_named {callee : Callee} {name : String} (named : callee.Named name) :
    callee.name = .ok name := by
  rcases named with ⟨expr, base, properties, front, texts, rfl, unfolds, baseText, areTexts, rfl⟩
  rw [name_of_baseText unfolds baseText, Name.foldlM_extend_of_texts front areTexts]

theorem name_of_offends {callee : Callee} {shape : String} (offends : callee.Offends shape) :
    callee.name = .error (.unhandledNodeShape shape) := by
  cases offends with
  | superClass => rfl
  | moduleImport => rfl
  | base unfolds noText => exact name_of_no_baseText unfolds noText
  | property unfolds baseText earlier offends =>
      rw [name_of_baseText unfolds baseText, Name.foldlM_extend_of_offends _ earlier offends]

theorem named_or_offends (callee : Callee) :
    (∃ name, callee.Named name) ∨ ∃ shape, callee.Offends shape := by
  cases callee with
  | superClass => exact .inr ⟨_, .superClass⟩
  | moduleImport => exact .inr ⟨_, .moduleImport⟩
  | expr callee =>
      rcases callee.exists_unfolds with ⟨base, properties, unfolds⟩
      by_cases baseText : ∃ front, base.BaseText properties.length front
      · rcases baseText with ⟨front, baseText⟩
        rcases Name.texts_or_offends properties with ⟨texts, areTexts⟩ |
          ⟨before, property, after, shape, rfl, earlier, offends⟩
        · exact .inl ⟨_, callee, base, properties, front, texts, rfl, unfolds, baseText, areTexts,
            rfl⟩
        · exact .inr ⟨shape, .property unfolds baseText earlier offends⟩
      · exact .inr ⟨_, .base unfolds (not_exists.mp baseText)⟩

theorem name_eq_ok_iff (callee : Callee) (name : String) :
    callee.name = .ok name ↔ callee.Named name := by
  constructor
  · intro isName
    rcases named_or_offends callee with ⟨other, named⟩ | ⟨shape, offends⟩
    · rw [name_of_named named, Except.ok.injEq] at isName
      exact isName ▸ named
    · rw [name_of_offends offends] at isName
      cases isName
  · exact name_of_named

theorem name_eq_error_iff (callee : Callee) (error : ExtractError) :
    callee.name = .error error ↔
      ∃ shape, callee.Offends shape ∧ error = .unhandledNodeShape shape := by
  constructor
  · intro fails
    rcases named_or_offends callee with ⟨name, named⟩ | ⟨shape, offends⟩
    · rw [name_of_named named] at fails
      cases fails
    · rw [name_of_offends offends, Except.error.injEq] at fails
      exact ⟨shape, offends, fails.symm⟩
  · rintro ⟨shape, offends, rfl⟩
    exact name_of_offends offends

end Callee

namespace Node

/-- Every expression unfolds in exactly one way. A call has a name exactly when the base
and all properties of what it calls have texts, and the name consists of these texts. It
has none exactly when a part offends; the error carries the shape of the first one. -/
theorem callName_read_along_chain (start : Nat) (callee : Callee) (arguments : List Expr)
    (types : List Part) :
    (∀ expr : Expr, ∃! chain : Expr × List MemberName, expr.Unfolds chain.1 chain.2) ∧
    (∀ name, (Node.call start callee arguments types).callName = .ok name ↔
      callee.Named name) ∧
    (∀ error, (Node.call start callee arguments types).callName = .error error ↔
      ∃ shape, callee.Offends shape ∧ error = .unhandledNodeShape shape) := by
  refine ⟨?_, callee.name_eq_ok_iff, callee.name_eq_error_iff⟩
  intro expr
  rcases expr.exists_unfolds with ⟨base, properties, unfolds⟩
  refine ⟨(base, properties), unfolds, ?_⟩
  rintro ⟨otherBase, otherProperties⟩ other
  rcases unfolds.unique other with ⟨sameBase, sameProperties⟩
  exact Prod.ext sameBase sameProperties

-- `(f() as T)['on'].#go()`: wrappers and brackets leave no trace in the name
example :
    (Node.call 0 (.expr (.node (.member
      (.node (.member
        (.wrapped .parentheses (.wrapped .asType
          (.node (.call 0 (.expr (.node (.identifier "f"))) [] [])) []) [])
        (.computed (.node (.string (some "on"))))))
      (.privateName "go")))) [] []).callName = .ok "(CallExpressionInMember).on.#go" := by
  decide

end Node

end DirectiveScan
