import DirectiveScan.Proofs.Directive.Scope

namespace DirectiveScan

/-! What a registration sees of its neighbors.

A registration looks for its entries in the whole call. It therefore sees the entries of
every call inside of it, and the calls that it is chained to stand inside of it. The main
statement says which entries these are, and what becomes of the scope and the template of
a registration at the end of a chain. -/

/-- What is met in a node is met in one block of every piece that holds the node. -/
theorem Piece.met_block {piece : Piece} {found : Node} (holds : piece.Holds found) :
    (Piece.node found).met <:+: piece.met := by
  induction holds with
  | here found => exact List.infix_rfl
  | @inside piece child found isChild _ induction =>
      have inChildren : child.met <:+: piece.children.flatMap Piece.met := by
        rw [List.flatMap_def]
        exact List.infix_of_mem_flatten (List.mem_map_of_mem isChild)
      rw [piece.met_eq]
      exact (induction.trans inChildren).trans (List.suffix_append _ _).isInfix

/-- What is written between the parentheses and the angle brackets of a call. -/
def Node.ownPieces : Node → List Piece
  | .call _ _ arguments types => arguments.map .expr ++ types.map .part
  | _ => []

namespace Directive

/-- The entries under a word in the arguments and the type arguments of a call. -/
def ownEntries (call : Node) (word : String) : List KeyValue :=
  (call.ownPieces.flatMap Piece.met).filterMap (entryUnder? word)

/-- The registrations behind a call, each one called on what stands before it. -/
inductive Chain (first : Node) : List Node → Node → Prop
  | link {last : Node} (isCall : first.kind = .callExpression)
      (registers : isRegistration last = true) (calledOn : last.CalledOn first) :
      Chain first [last] last
  | further {links : List Node} {before last : Node} (chain : Chain first links before)
      (registers : isRegistration last = true) (calledOn : last.CalledOn before) :
      Chain first (links ++ [last]) last

/-! ## Entries -/

theorem entriesNamed_block {call inner : Node} (holds : (Piece.node call).Holds inner)
    (word : String) : entriesNamed inner word <:+: entriesNamed call word := by
  rw [entriesNamed_eq, entriesNamed_eq]
  exact (Piece.met_block holds).filterMap _

/-- What is met in a call of a member: the call, the member, its object and its name, and
then what is written behind the callee. -/
theorem met_of_calledOn (start : Nat) (receiver : Node) (last : MemberName)
    (arguments : List Expr) (types : List Part) :
    let member : Node := .member (.node receiver) last
    let call : Node := .call start (.expr (.node member)) arguments types
    (Piece.node call).met = call :: member :: ((Piece.node receiver).met ++
      ((Piece.memberName last).met ++ call.ownPieces.flatMap Piece.met)) := by
  intro member call
  have ofMember : (Piece.node member).met =
      member :: ((Piece.node receiver).met ++ (Piece.memberName last).met) := by
    rw [Piece.met_node, Node.map_node_descendants, Node.pieces, List.flatMap_cons,
      List.flatMap_singleton]
    rfl
  have ofCallee : (Piece.callee (.expr (.node member))).met = (Piece.node member).met := rfl
  rw [Piece.met_node, Node.map_node_descendants, Node.pieces, List.flatMap_cons, ofCallee,
    ofMember, List.cons_append, List.append_assoc]
  rfl

/-- The word that makes a call a registration holds no entries, so a registration has
those of its receiver and its own. -/
theorem entriesNamed_of_calledOn {call receiver : Node} (registers : isRegistration call = true)
    (calledOn : call.CalledOn receiver) (word : String) :
    entriesNamed call word = entriesNamed receiver word ++ ownEntries call word := by
  rcases calledOn with ⟨start, last, arguments, types, rfl⟩
  -- Dotted or in brackets, the word is met as a single identifier.
  have noEntries : (Piece.memberName last).met.filterMap (entryUnder? word) = [] := by
    rcases (isRegistration_iff _).mp registers with
      ⟨_, _, _, _, isCall⟩ | ⟨_, _, _, _, isCall⟩
    · cases isCall
      rfl
    · cases isCall
      rfl
  rw [entriesNamed_eq, entriesNamed_eq, met_of_calledOn, List.filterMap_cons_none rfl,
    List.filterMap_cons_none rfl, List.filterMap_append, List.filterMap_append, noEntries]
  rfl

/-- At the end of a chain, the entries of the links stand behind those of the first call. -/
theorem entriesNamed_of_chain {first last : Node} {links : List Node}
    (chain : Chain first links last) (word : String) :
    entriesNamed last word = entriesNamed first word ++ links.flatMap (ownEntries · word) := by
  induction chain with
  | link _ registers calledOn =>
      rw [entriesNamed_of_calledOn registers calledOn, List.flatMap_singleton]
  | further _ registers calledOn induction =>
      rw [entriesNamed_of_calledOn registers calledOn, induction, List.flatMap_append,
        List.flatMap_singleton, List.append_assoc]

theorem Chain.last_mem {first last : Node} {links : List Node}
    (chain : Chain first links last) : last ∈ links := by
  cases chain with
  | link _ _ _ => exact List.mem_singleton_self last
  | further _ _ _ => exact List.mem_append_right _ (List.mem_singleton_self last)

/-! ## Scopes and templates -/

theorem scope_ambiguous_of_length_le {inner call : Node} {count : Nat}
    (ambiguous : scope inner = .error (.ambiguousScopeDeclaration count))
    (more : (entriesNamed inner scopeKey).length ≤ (entriesNamed call scopeKey).length) :
    ∃ larger, count ≤ larger ∧ scope call = .error (.ambiguousScopeDeclaration larger) := by
  have ⟨several, isCount⟩ := (scope_eq_ambiguous_iff inner count).mp ambiguous
  refine ⟨(entriesNamed call scopeKey).length, by omega, ?_⟩
  exact (scope_eq_ambiguous_iff call _).mpr ⟨by omega, rfl⟩

theorem templateUrl_eq_of_head? {left right : Node}
    (same : (entriesNamed left templateUrlKey).head? = (entriesNamed right templateUrlKey).head?) :
    templateUrl left = templateUrl right := by
  rw [templateUrl, templateUrl]
  cases ofLeft : entriesNamed left templateUrlKey with
  | nil =>
      rw [ofLeft, List.head?_nil, eq_comm, List.head?_eq_none_iff] at same
      rw [same]
  | cons entry rest =>
      rw [ofLeft, List.head?_cons, eq_comm, List.head?_eq_some_iff] at same
      rcases same with ⟨others, ofRight⟩
      rw [ofRight]
      rfl

/-! ## The main statement -/

/-- A call sees the entries of every call inside of it in one block. A registration that is
called on another call sees the entries of that call and, behind them, the entries in its
own arguments. At the end of a chain a registration sees what the first call sees and what
every link adds: it is ambiguous exactly if these are several scope entries, and it takes
over the template of the first call if there is one. -/
theorem entries_of_neighbors (call : Node) :
    (∀ inner, (Piece.node call).Holds inner →
      (∀ word, entriesNamed inner word <:+: entriesNamed call word) ∧
      (∀ count, scope inner = .error (.ambiguousScopeDeclaration count) →
        ∃ larger, count ≤ larger ∧ scope call = .error (.ambiguousScopeDeclaration larger))) ∧
    (∀ receiver, isRegistration call = true → call.CalledOn receiver →
      ∀ word, entriesNamed call word = entriesNamed receiver word ++ ownEntries call word) ∧
    (∀ first links, Chain first links call →
      (∀ word, entriesNamed call word =
        entriesNamed first word ++ links.flatMap (ownEntries · word)) ∧
      (∀ count, scope first = .error (.ambiguousScopeDeclaration count) →
        ∃ larger, count ≤ larger ∧ scope call = .error (.ambiguousScopeDeclaration larger)) ∧
      (2 ≤ (entriesNamed first scopeKey).length + (ownEntries call scopeKey).length →
        ∃ count, scope call = .error (.ambiguousScopeDeclaration count)) ∧
      (∀ count, scope call = .error (.ambiguousScopeDeclaration count) ↔
        2 ≤ count ∧ (entriesNamed first scopeKey).length +
          (links.flatMap (ownEntries · scopeKey)).length = count) ∧
      (entriesNamed first templateUrlKey ≠ [] → templateUrl call = templateUrl first)) := by
  refine ⟨fun inner holds => ⟨entriesNamed_block holds, fun count ambiguous => ?_⟩,
    fun receiver => entriesNamed_of_calledOn, fun first links chain => ?_⟩
  · exact scope_ambiguous_of_length_le ambiguous (entriesNamed_block holds scopeKey).length_le
  · have together := entriesNamed_of_chain chain
    have sizes := congrArg List.length (together scopeKey)
    rw [List.length_append] at sizes
    -- The call is the last of the links.
    have own : (ownEntries call scopeKey).length ≤
        (links.flatMap (ownEntries · scopeKey)).length := by
      have isOwn : ownEntries call scopeKey ∈ links.map (ownEntries · scopeKey) :=
        List.mem_map_of_mem chain.last_mem
      exact (List.infix_of_mem_flatten isOwn).length_le
    refine ⟨together, fun count ambiguous => ?_, fun several => ?_, fun count => ?_,
      fun declared => ?_⟩
    · exact scope_ambiguous_of_length_le ambiguous (by omega)
    · exact ⟨_, (scope_eq_ambiguous_iff call _).mpr ⟨by omega, rfl⟩⟩
    · rw [scope_eq_ambiguous_iff, sizes]
    · apply templateUrl_eq_of_head?
      rw [together, List.head?_append_of_ne_nil _ declared]

/-- The third registration of the chain `app.directive('a', { scope: true })`,
`.directive('b', { templateUrl: 'b.html' })`, `.directive('c', { scope: false })` sees the
scope of the first one. -/
theorem third_link_sees_first :
    let first := registrationOn (.identifier "app") "a"
      [.property (.name scopeKey) (.node (.boolean true))]
    let second := registrationOn first "b"
      [.property (.name templateUrlKey) (.node (.string (some "b.html")))]
    let third := registrationOn second "c" [.property (.name scopeKey) (.node (.boolean false))]
    Chain first [second, third] third ∧
      scope third = .error (.ambiguousScopeDeclaration 2) := by
  intro first second third
  have registers (receiver : Node) (name : String) (entries : List Entry) :
      isRegistration (registrationOn receiver name entries) = true :=
    (isRegistration_iff _).mpr (.inl ⟨_, _, _, _, rfl⟩)
  have ofSecond : Chain first [second] second := .link rfl (registers ..) ⟨_, _, _, _, rfl⟩
  have ofThird : Chain first [second, third] third :=
    .further ofSecond (registers ..) ⟨_, _, _, _, rfl⟩
  have ⟨_, _, _, counted, _⟩ := (entries_of_neighbors third).2.2 _ _ ofThird
  exact ⟨ofThird, (counted 2).mpr ⟨Nat.le_refl 2, rfl⟩⟩

end Directive

end DirectiveScan
