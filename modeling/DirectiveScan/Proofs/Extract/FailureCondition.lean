import DirectiveScan.Proofs.Directive.Recognition
import DirectiveScan.Proofs.Extract.AllOrNothing

namespace DirectiveScan

/-! When a file fails, and with which kind of error.

A registration has four possible defects: it has no proper name, it declares several
scopes, the scope that it declares has an unsupported form, or its template exists and
cannot be read. A file fails exactly when one of its registrations has a defect, unless the
program stops at a template that has no path. -/

/-! ## Scopes -/

/-- The entries of an object literal that bind a name. -/
inductive Entry.Binds : Entry → Prop
  | name (word : String) (value : Expr) : Binds (.property (.name word) value)
  | string (text : String) (value : Expr) : Binds (.property (.string (some text)) value)
  | number (number : Decimal) (value : Expr) : Binds (.property (.number number) value)
  | shorthand (word : String) : Binds (.shorthand word)

/-- The values that declare a scope. -/
inductive Expr.DeclaresScope : Expr → Prop
  | flag (value : Bool) : DeclaresScope (.node (.boolean value))
  | bindings (entries : List Entry) (bind : ∀ entry ∈ entries, entry.Binds) :
      DeclaresScope (.node (.object entries))

namespace Directive

theorem bindingName_of_binds {entry : Entry} (binds : entry.Binds) :
    ∃ name, bindingName entry = .ok name := by
  cases binds with
  | name word value => exact ⟨word, rfl⟩
  | string text value => exact ⟨text, rfl⟩
  | number number value => exact ⟨number.text, rfl⟩
  | shorthand word => exact ⟨word, rfl⟩

theorem bindingName_of_not_binds {entry : Entry} (unsupported : ¬entry.Binds) :
    ∃ found, bindingName entry = .error (.unsupportedScopeForm found) := by
  cases entry with
  | property key value =>
      cases key with
      | name word => exact absurd (.name word value) unsupported
      | string literal =>
          cases literal with
          | none => exact ⟨_, rfl⟩
          | some text => exact absurd (.string text value) unsupported
      | number number => exact absurd (.number number value) unsupported
      | bigInt => exact ⟨_, rfl⟩
      | computed inner => exact ⟨_, rfl⟩
  | shorthand word => exact absurd (.shorthand word) unsupported
  | initialized word value => exact ⟨_, rfl⟩
  | method key parts => exact ⟨_, rfl⟩
  | spread value => exact ⟨_, rfl⟩

theorem mapM_bindingName_of_binds {entries : List Entry}
    (bind : ∀ entry ∈ entries, entry.Binds) :
    ∃ names, entries.mapM bindingName = .ok names := by
  induction entries with
  | nil => exact ⟨[], rfl⟩
  | cons entry rest induction =>
      rcases bindingName_of_binds (bind entry (by simp)) with ⟨name, headSucceeds⟩
      rcases induction fun other member => bind other (by simp [member])
        with ⟨names, restSucceeds⟩
      refine ⟨name :: names, ?_⟩
      rw [List.mapM_cons, headSucceeds, restSucceeds]
      rfl

theorem mapM_bindingName_of_not_binds {entries : List Entry}
    (unsupported : ¬∀ entry ∈ entries, entry.Binds) :
    ∃ found, entries.mapM bindingName = .error (.unsupportedScopeForm found) := by
  induction entries with
  | nil => exact absurd (by simp) unsupported
  | cons entry rest induction =>
      by_cases binds : entry.Binds
      · have restUnsupported : ¬∀ other ∈ rest, other.Binds := by
          intro bind
          exact unsupported (List.forall_mem_cons.mpr ⟨binds, bind⟩)
        rcases bindingName_of_binds binds with ⟨name, headSucceeds⟩
        rcases induction restUnsupported with ⟨found, restFails⟩
        refine ⟨found, ?_⟩
        rw [List.mapM_cons, headSucceeds, restFails]
        rfl
      · rcases bindingName_of_not_binds binds with ⟨found, headFails⟩
        refine ⟨found, ?_⟩
        rw [List.mapM_cons, headFails]
        rfl

theorem scopeOf_of_declaresScope {value : Expr} (declares : value.DeclaresScope) :
    ∃ scope, scopeOf value = .ok scope := by
  cases declares with
  | flag value => exact ⟨.isolate value, rfl⟩
  | bindings entries bind =>
      rcases mapM_bindingName_of_binds bind with ⟨names, succeeds⟩
      refine ⟨.bindings names, ?_⟩
      rw [scopeOf, succeeds]
      rfl

theorem scopeOf_of_not_declaresScope {value : Expr} (unsupported : ¬value.DeclaresScope) :
    ∃ found, scopeOf value = .error (.unsupportedScopeForm found) := by
  rcases value with found | ⟨wrapper, inner, types⟩ | ⟨shape, parts⟩
  · cases found with
    | boolean flag => exact absurd (.flag flag) unsupported
    | object entries =>
        have someUnsupported : ¬∀ entry ∈ entries, entry.Binds := fun bind =>
          unsupported (.bindings entries bind)
        rcases mapM_bindingName_of_not_binds someUnsupported with ⟨found, fails⟩
        refine ⟨found, ?_⟩
        rw [scopeOf, fails]
        rfl
    | _ => exact ⟨_, rfl⟩
  · exact ⟨_, rfl⟩
  · exact ⟨_, rfl⟩

/-! ## Defects -/

/-- The entries under a word anywhere in a call, in preorder. -/
def EntriesUnder (call : Node) (word : String) (entries : List KeyValue) : Prop :=
  ∃ nodes, (Piece.node call).Preorder nodes ∧ entries = nodes.filterMap (entryUnder? word)

/-- The first argument is no string literal with a text. -/
def Unnamed (call : Node) : Prop := ∀ text, ¬call.FirstText text

/-- There are several entries under the scope word. -/
def AmbiguousScope (call : Node) : Prop :=
  ∃ entries, EntriesUnder call scopeKey entries ∧ 2 ≤ entries.length

/-- There is one entry under the scope word, and its value declares no scope. -/
def UnsupportedScope (call : Node) : Prop :=
  ∃ key value, EntriesUnder call scopeKey [(key, value)] ∧ ¬value.DeclaresScope

/-- The first entry under the template word is a string literal with a text. -/
def DeclaresTemplate (call : Node) (url : String) : Prop :=
  ∃ key rest, EntriesUnder call templateUrlKey ((key, .node (.string (some url))) :: rest)

/-- The declared template cannot be read although it exists. -/
def UnreadableTemplate (resolver : TemplateResolver) (files : FileSource) (file : Path)
    (call : Node) : Prop :=
  ∃ url document cause, DeclaresTemplate call url ∧
    resolver.documentPath? url file = some document ∧
    files document = .error cause ∧ cause.failure ≠ .notFound

theorem entriesUnder_iff (call : Node) (word : String) (entries : List KeyValue) :
    EntriesUnder call word entries ↔ entriesNamed call word = entries := by
  simp [EntriesUnder, Piece.preorder_iff, entriesNamed_eq, eq_comm]

/-! ## One registration -/

theorem eq_call_of_isRegistration {call : Node} (registers : isRegistration call = true) :
    ∃ start callee arguments types, call = .call start callee arguments types := by
  rcases (isRegistration_iff call).mp registers with
    ⟨start, owner, arguments, types, rfl⟩ | ⟨start, owner, arguments, types, rfl⟩
  · exact ⟨_, _, _, _, rfl⟩
  · exact ⟨_, _, _, _, rfl⟩

theorem name_of_unnamed {call : Node} (registers : isRegistration call = true)
    (unnamed : Unnamed call) : ∃ found, name call = .error (.unsupportedNameForm found) := by
  rcases eq_call_of_isRegistration registers with ⟨start, callee, arguments, types, rfl⟩
  rw [name, Node.deepField?_first_argument]
  cases arguments with
  | nil => exact ⟨_, rfl⟩
  | cons first rest =>
      rcases first with found | ⟨wrapper, inner, types⟩ | ⟨shape, parts⟩
      · cases found with
        | string literal =>
            cases literal with
            | none => exact ⟨_, rfl⟩
            | some text => exact absurd ⟨_, _, _, _, rfl⟩ (unnamed text)
        | _ => exact ⟨_, rfl⟩
      · exact ⟨_, rfl⟩
      · exact ⟨_, rfl⟩

theorem name_of_firstText {call : Node} {text : String} (named : call.FirstText text) :
    name call = .ok text := by
  rcases named with ⟨start, callee, rest, types, rfl⟩
  rw [name, Node.deepField?_first_argument]
  rfl

theorem scope_of_ambiguousScope {call : Node} (ambiguous : AmbiguousScope call) :
    ∃ count, scope call = .error (.ambiguousScopeDeclaration count) := by
  rcases ambiguous with ⟨entries, under, several⟩
  rw [entriesUnder_iff] at under
  rw [scope, under]
  match entries, several with
  | first :: second :: rest, _ => exact ⟨_, rfl⟩

theorem scope_of_unsupportedScope {call : Node} (unsupported : UnsupportedScope call) :
    ∃ found, scope call = .error (.unsupportedScopeForm found) := by
  rcases unsupported with ⟨key, value, under, notDeclared⟩
  rcases scopeOf_of_not_declaresScope notDeclared with ⟨found, fails⟩
  rw [entriesUnder_iff] at under
  refine ⟨found, ?_⟩
  rw [scope, under]
  exact congrArg (Except.map some) fails

theorem scope_of_supported {call : Node} (unambiguous : ¬AmbiguousScope call)
    (supported : ¬UnsupportedScope call) : ∃ found, scope call = .ok found := by
  cases under : entriesNamed call scopeKey with
  | nil => exact ⟨none, by rw [scope, under, scopeAmong]⟩
  | cons entry rest =>
      cases rest with
      | nil =>
          have declares : entry.2.DeclaresScope := by
            by_contra notDeclared
            exact supported ⟨entry.1, entry.2, (entriesUnder_iff ..).mpr under, notDeclared⟩
          rcases scopeOf_of_declaresScope declares with ⟨found, succeeds⟩
          refine ⟨some found, ?_⟩
          rw [scope, under]
          exact congrArg (Except.map some) succeeds
      | cons second rest =>
          have several : 2 ≤ (entry :: second :: rest).length := by simp
          exact absurd ⟨_, (entriesUnder_iff ..).mpr under, several⟩ unambiguous

theorem templatePath_eq_some_iff (call : Node) (url : String) :
    (templateUrl call).toOption.join = some url ↔ DeclaresTemplate call url := by
  simp only [DeclaresTemplate, entriesUnder_iff, templateUrl]
  cases entriesNamed call templateUrlKey with
  | nil => simp [templateUrlAmong, Except.toOption]
  | cons entry rest =>
      rcases entry with ⟨key, found | ⟨wrapper, inner, types⟩ | ⟨shape, parts⟩⟩
      · cases found with
        | string literal => cases literal <;> simp [templateUrlAmong, Except.toOption]
        | _ => simp [templateUrlAmong, Except.toOption]
      · simp [templateUrlAmong, Except.toOption]
      · simp [templateUrlAmong, Except.toOption]

theorem read_of_unnamed {call : Node} (registers : isRegistration call = true)
    (unnamed : Unnamed call) : ∃ found, read call = .error (.unsupportedNameForm found) := by
  rcases name_of_unnamed registers unnamed with ⟨found, fails⟩
  refine ⟨found, ?_⟩
  rw [read, fails]
  rfl

theorem read_of_scope_error {call : Node} {error : ExtractError} (named : ¬Unnamed call)
    (fails : scope call = .error error) : read call = .error error := by
  rcases not_forall_not.mp named with ⟨text, isText⟩
  rw [read, name_of_firstText isText, fails]
  rfl

theorem read_of_supported {call : Node} (named : ¬Unnamed call)
    (unambiguous : ¬AmbiguousScope call) (supported : ¬UnsupportedScope call) :
    ∃ declaration, read call = .ok declaration ∧
      declaration.templatePath = (templateUrl call).toOption.join := by
  rcases not_forall_not.mp named with ⟨text, isText⟩
  rcases scope_of_supported unambiguous supported with ⟨found, succeeds⟩
  rw [read, name_of_firstText isText, succeeds]
  exact ⟨_, rfl, rfl⟩

end Directive

theorem ExtractError.kind_unreadable (path : String) {cause : ReadError}
    (present : cause.failure ≠ .notFound) :
    (ExtractError.unreadable path cause).kind = .unreadable := if_neg present

theorem TemplateResolver.dependencies_eq_failed_iff (resolver : TemplateResolver)
    (files : FileSource) (template : Option String) (file : Path) (error : ExtractError) :
    resolver.dependencies files template file = .error (.failed error) ↔
      ∃ url document cause, template = some url ∧ resolver.documentPath? url file = some document ∧
        files document = .error cause ∧ cause.failure ≠ .notFound ∧
        error = .unreadable document.text cause := by
  cases template with
  | none => simp [dependencies]
  | some url =>
      cases isDocument : resolver.documentPath? url file with
      | none => simp [dependencies, isDocument]
      | some document =>
          simp only [dependencies, isDocument]
          cases outcome : files document with
          | ok contents => simp [dependenciesOf, outcome, Except.mapError, isDocument]
          | error cause =>
              by_cases missing : cause.failure = .notFound
              · simp [dependenciesOf, outcome, missing, Except.mapError, isDocument]
              · simp [dependenciesOf, outcome, missing, Except.mapError, isDocument,
                  @eq_comm _ error]

/-! ## Kinds of failures -/

namespace Candidate

open Directive

variable (resolver : TemplateResolver) (files : FileSource) (file : Path)

/-- The kind of error with which a registration fails. A missing name hides the scope, and
both hide the template. -/
inductive Failure (call : Node) : ErrorKind → Prop
  | name (unnamed : Unnamed call) : Failure call .unsupportedNameForm
  | scopeCount (named : ¬Unnamed call) (ambiguous : AmbiguousScope call) :
      Failure call .ambiguousScopeDeclaration
  | scopeForm (named : ¬Unnamed call) (unsupported : UnsupportedScope call) :
      Failure call .unsupportedScopeForm
  | template (named : ¬Unnamed call) (unambiguous : ¬AmbiguousScope call)
      (supported : ¬UnsupportedScope call)
      (unreadable : UnreadableTemplate resolver files file call) : Failure call .unreadable

variable {resolver files file}

theorem Failure.text_mem {call : Node} {kind : ErrorKind}
    (failure : Failure resolver files file call kind) :
    kind.text ∈ ["unsupported-name-form", "unsupported-scope-form",
      "ambiguous-scope-declaration", "io"] := by
  cases failure <;> simp [ErrorKind.text]

theorem failsWith_iff_of_read_error {call : Node} {error : ExtractError}
    (isRead : Directive.read call = .error error) (other : ExtractError) :
    FailsWith resolver files file call other ↔ error = other := by
  simp [FailsWith, isRead]

theorem failsWith_iff_of_read_ok {call : Node} {declaration : Declaration}
    (isRead : Directive.read call = .ok declaration) (error : ExtractError) :
    FailsWith resolver files file call error ↔
      resolver.dependencies files declaration.templatePath file = .error (.failed error) := by
  simp [FailsWith, isRead]

theorem failure_of_failsWith {call : Node} (registers : isRegistration call = true)
    {error : ExtractError} (fails : FailsWith resolver files file call error) :
    Failure resolver files file call error.kind := by
  by_cases unnamed : Unnamed call
  · rcases read_of_unnamed registers unnamed with ⟨found, isRead⟩
    rw [← (failsWith_iff_of_read_error isRead error).mp fails]
    exact .name unnamed
  · by_cases ambiguous : AmbiguousScope call
    · rcases scope_of_ambiguousScope ambiguous with ⟨count, isScope⟩
      have isRead := read_of_scope_error unnamed isScope
      rw [← (failsWith_iff_of_read_error isRead error).mp fails]
      exact .scopeCount unnamed ambiguous
    · by_cases unsupported : UnsupportedScope call
      · rcases scope_of_unsupportedScope unsupported with ⟨found, isScope⟩
        have isRead := read_of_scope_error unnamed isScope
        rw [← (failsWith_iff_of_read_error isRead error).mp fails]
        exact .scopeForm unnamed unsupported
      · rcases read_of_supported unnamed ambiguous unsupported
          with ⟨declaration, isRead, isTemplate⟩
        have unreadable := (failsWith_iff_of_read_ok isRead error).mp fails
        rcases (resolver.dependencies_eq_failed_iff ..).mp unreadable
          with ⟨url, document, cause, isUrl, isDocument, outcome, present, rfl⟩
        have declares := (templatePath_eq_some_iff call url).mp (isTemplate.symm.trans isUrl)
        rw [ExtractError.kind_unreadable _ present]
        exact .template unnamed ambiguous unsupported
          ⟨url, document, cause, declares, isDocument, outcome, present⟩

theorem exists_failsWith_of_failure {call : Node} (registers : isRegistration call = true)
    {kind : ErrorKind} (failure : Failure resolver files file call kind) :
    ∃ error, FailsWith resolver files file call error ∧ error.kind = kind := by
  cases failure with
  | name unnamed =>
      rcases read_of_unnamed registers unnamed with ⟨found, isRead⟩
      exact ⟨_, .inl isRead, rfl⟩
  | scopeCount named ambiguous =>
      rcases scope_of_ambiguousScope ambiguous with ⟨count, isScope⟩
      exact ⟨_, .inl (read_of_scope_error named isScope), rfl⟩
  | scopeForm named unsupported =>
      rcases scope_of_unsupportedScope unsupported with ⟨found, isScope⟩
      exact ⟨_, .inl (read_of_scope_error named isScope), rfl⟩
  | template named unambiguous supported unreadable =>
      rcases read_of_supported named unambiguous supported
        with ⟨declaration, isRead, isTemplate⟩
      rcases unreadable with ⟨url, document, cause, declares, isDocument, outcome, present⟩
      have isUrl := isTemplate.trans ((templatePath_eq_some_iff call url).mpr declares)
      have fails := (resolver.dependencies_eq_failed_iff files _ file _).mpr
        ⟨url, document, cause, isUrl, isDocument, outcome, present, rfl⟩
      exact ⟨_, .inr ⟨declaration, isRead, fails⟩, ExtractError.kind_unreadable _ present⟩

/-- A registration fails exactly when it has one of the four defects. -/
theorem exists_failure_iff (call : Node) :
    (∃ kind, Failure resolver files file call kind) ↔
      Unnamed call ∨ AmbiguousScope call ∨ UnsupportedScope call ∨
        UnreadableTemplate resolver files file call := by
  constructor
  · intro ⟨kind, failure⟩
    cases failure with
    | name unnamed => exact .inl unnamed
    | scopeCount _ ambiguous => exact .inr (.inl ambiguous)
    | scopeForm _ unsupported => exact .inr (.inr (.inl unsupported))
    | template _ _ _ unreadable => exact .inr (.inr (.inr unreadable))
  · intro defect
    by_cases unnamed : Unnamed call
    · exact ⟨_, .name unnamed⟩
    · by_cases ambiguous : AmbiguousScope call
      · exact ⟨_, .scopeCount unnamed ambiguous⟩
      · by_cases unsupported : UnsupportedScope call
        · exact ⟨_, .scopeForm unnamed unsupported⟩
        · have unreadable := ((defect.resolve_left unnamed).resolve_left ambiguous).resolve_left
            unsupported
          exact ⟨_, .template unnamed ambiguous unsupported unreadable⟩

end Candidate

namespace Program

open Directive

/-- Unless the program stops, a file fails exactly when one of the registrations that occur in
it has a defect. The reported error is a failure of such a registration, and its kind is one of
four. A registration with several defects fails with the kind that comes first. The program
stops where an extension with a slash is looked for beside the file and a registration with a
template is reached; then no defect of the file is reported. -/
theorem failure_condition (program : Program) (resolver : TemplateResolver)
    (files : FileSource) (file : Path) (schedule : Schedule) :
    (program.analyzeUnder resolver files file schedule = none ↔
      resolver.lookup = .companion ∧ '/' ∈ resolver.extension.toList ∧ program.ReachesTemplate) ∧
    (∀ result, program.analyzeUnder resolver files file schedule = some result →
      (result.errors ≠ [] ↔
        ∃ call, program.Holds call ∧ isRegistration call = true ∧
          (Unnamed call ∨ AmbiguousScope call ∨ UnsupportedScope call ∨
            UnreadableTemplate resolver files file call)) ∧
      ∀ error ∈ result.errors,
        (∃ call, program.Holds call ∧ isRegistration call = true ∧
          Candidate.Failure resolver files file call error.kind) ∧
        error.kind.text ∈ ["unsupported-name-form", "unsupported-scope-form",
          "ambiguous-scope-declaration", "io"]) ∧
    (∀ call, isRegistration call = true → ∀ kind,
      (∃ error, Candidate.FailsWith resolver files file call error ∧ error.kind = kind) ↔
        Candidate.Failure resolver files file call kind) := by
  refine ⟨analyzeUnder_eq_none_iff schedule, fun result analyzed => ⟨?_, ?_⟩, ?_⟩
  · simp only [errors_ne_nil_iff analyzed, mem_registrations_iff, ← Candidate.exists_failure_iff,
      and_assoc]
    constructor
    · intro ⟨call, holds, registers, error, fails⟩
      exact ⟨call, holds, registers, _, Candidate.failure_of_failsWith registers fails⟩
    · intro ⟨call, holds, registers, kind, failure⟩
      rcases Candidate.exists_failsWith_of_failure registers failure with ⟨error, fails, _⟩
      exact ⟨call, holds, registers, error, fails⟩
  · intro error member
    rcases failsWith_of_mem_errors analyzed member with ⟨call, isCall, fails⟩
    rcases (mem_registrations_iff program call).mp isCall with ⟨holds, registers⟩
    have failure := Candidate.failure_of_failsWith registers fails
    exact ⟨⟨call, holds, registers, failure⟩, failure.text_mem⟩
  · intro call registers kind
    constructor
    · intro ⟨error, fails, isKind⟩
      exact isKind ▸ Candidate.failure_of_failsWith registers fails
    · exact Candidate.exists_failsWith_of_failure registers

/-- A registration with a template, and one whose name is a variable. -/
def templatedAndUnnamed : Program where
  kind := .script
  items := [Directive.templated, Directive.registering [.node (.identifier "bad")]].map
    Part.statement

/-- With an extension that holds a slash the missing name is not reported. -/
theorem unnamed_unreported :
    (∃ call, templatedAndUnnamed.Holds call ∧ isRegistration call = true ∧ Unnamed call) ∧
    ∀ files schedule,
      templatedAndUnnamed.analyzeUnder (.beside "x/y") files ⟨"/app.js"⟩ schedule = none := by
  constructor
  · have member : Directive.registering [.node (.identifier "bad")] ∈
        registrations (.program templatedAndUnnamed) :=
      List.mem_cons_of_mem Directive.templated (List.mem_singleton.mpr rfl)
    rcases (mem_registrations_iff templatedAndUnnamed _).mp member with ⟨holds, registers⟩
    refine ⟨_, holds, registers, ?_⟩
    rintro text ⟨_, _, _, _, isCall⟩
    cases isCall
  · intro files schedule
    have reaches : templatedAndUnnamed.ReachesTemplate :=
      ⟨[], ⟨"slow", none, none, some "slow.html"⟩, [.error (.unsupportedNameForm "Identifier")],
        rfl, by simp, by simp⟩
    exact (analyzeUnder_eq_none_iff schedule).mpr ⟨rfl, by decide, reaches⟩

end Program

end DirectiveScan
