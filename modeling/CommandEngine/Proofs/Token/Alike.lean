import CommandEngine.Executor
import CommandEngine.Proofs.Chain.Composition
import CommandEngine.Proofs.Chain.Congruence
import Mathlib.Data.List.Forall2

/-!
# Alike but for the token

Two runs of the engine with two tokens are compared entry by entry and value by value.  What the
engine shows of a token is its text, as the key to the log in what a caller gets, and the token
itself in records and reports.  Things are *alike* if they are the same with the second token in
these places where the first one has the first.

Nowhere else may they differ.  In particular no flag, message, event or order does, and the texts
of a failure are the same (`Failure.Alike.report`), although a rejected command carries a result
with a key.  A failure may also come from application code that saw neither token; then it is the
same in both runs, whatever is in it.

Code that does not look at the token is a program that agrees with itself
(`ChainProgram.Blind`): given replies that are alike, it makes the same request next, and it ends
in outcomes that are alike.  Such a program may look at everything else that it is shown.
-/
namespace CommandEngine

section Data
variable (t t' : Token)

/-- Keys to the log: none, or the texts of the tokens. -/
inductive KeyAlike : Option String → Option String → Prop
  | none : KeyAlike none none
  | some : KeyAlike (some t.text) (some t'.text)

/-- Validation results that differ in the key at most. -/
structure ValidationResult.Alike (r r' : ValidationResult) : Prop where
  messages : r'.messages = r.messages
  success : r'.success = r.success
  logKey : KeyAlike t t' r.logKey r'.logKey

/-- Failures that are the same, or differ in the key of the rejection at their root. -/
inductive Failure.Alike : Failure → Failure → Prop
  | same (f : Failure) : Failure.Alike f f
  | rejected (contexts : List String) (typeName : String) {r r' : ValidationResult}
      (hr : r.Alike t t' r') : Failure.Alike ⟨contexts, .engine (.validationFailed typeName r)⟩
        ⟨contexts, .engine (.validationFailed typeName r')⟩

inductive Raise.Alike : Raise → Raise → Prop
  | failure {f f' : Failure} (hf : f.Alike t t' f') : Raise.Alike (.failure f) (.failure f')
  | panic (p : Panic) : Raise.Alike (.panic p) (.panic p)

/-- Two values with something between them, or two errors with something between these. -/
inductive ExceptAlike {ε α : Type} (E : ε → ε → Prop) (V : α → α → Prop) :
    Except ε α → Except ε α → Prop
  | ok {a a' : α} (ha : V a a') : ExceptAlike E V (.ok a) (.ok a')
  | error {e e' : ε} (he : E e e') : ExceptAlike E V (.error e) (.error e')

/-- Outcomes that are values with something between them, or raises that are alike. -/
abbrev OutcomeAlike {α : Type} (V : α → α → Prop) : Outcome α → Outcome α → Prop :=
  ExceptAlike (Raise.Alike t t') V

structure SanitizedError.Alike (e e' : SanitizedError) : Prop where
  isValidationError : e'.isValidationError = e.isValidationError
  messages : e'.messages = e.messages
  logKey : KeyAlike t t' e.logKey e'.logKey

inductive CallerResult.Alike : CallerResult → CallerResult → Prop
  | success (result : CommandResult) : CallerResult.Alike (.success result) (.success result)
  | error {e e' : SanitizedError} (he : e.Alike t t' e') : CallerResult.Alike (.error e) (.error e')

/-- Reports on one command that was run with the one and the other token. -/
structure ExecutedCommand.Alike (x x' : ExecutedCommand) : Prop where
  command : x'.command = x.command
  token : x.token = t
  token' : x'.token = t'
  result : x.result.Alike t t' x'.result
  validation : Option.Rel (ValidationResult.Alike t t') x.validation x'.validation
  events : x'.events = x.events

/-! ## Histories -/

/-- Records that differ in the token at most. -/
structure LogEvent.Alike (e e' : LogEvent) : Prop where
  level : e'.level = e.level
  message : e'.message = e.message
  fields : e'.fields = e.fields
  token : e.token? = none ∧ e'.token? = none ∨ e.token? = some t ∧ e'.token? = some t'

inductive HookCall.Alike : HookCall → HookCall → Prop
  | createScope : HookCall.Alike .createScope .createScope
  | restoreAmbientValues (values : AmbientValues) :
      HookCall.Alike (.restoreAmbientValues values) (.restoreAmbientValues values)
  | validationResult {r r' : ValidationResult} (hr : r.Alike t t' r') :
      HookCall.Alike (.validationResult r) (.validationResult r')
  | immediateEvent (event : Object) : HookCall.Alike (.immediateEvent event) (.immediateEvent event)
  | finalResult {r r' : CallerResult} (hr : r.Alike t t' r') (events : List Object) :
      HookCall.Alike (.finalResult r events) (.finalResult r' events)
  | disposeScope : HookCall.Alike .disposeScope .disposeScope

/-- Marks that are calls of hooks alike, or the same other mark. -/
inductive Mark.Alike : Mark → Mark → Prop
  | hook {call call' : HookCall} (hcall : call.Alike t t' call') :
      Mark.Alike (.hook call) (.hook call')
  | own {m : Mark} (hm : m.hook? = none) : Mark.Alike m m

inductive Happening.Alike : Happening → Happening → Prop
  | sign (s : Sign) : Happening.Alike (.sign s) (.sign s)
  | log {e e' : LogEvent} (he : e.Alike t t' e') : Happening.Alike (.log e) (.log e')
  | mark {m m' : Mark} (hm : m.Alike t t' m') : Happening.Alike (.mark m) (.mark m')
  | streamed (event : Object) : Happening.Alike (.streamed event) (.streamed event)

/-- Histories that are alike, entry by entry. -/
def HistoryAlike : List Happening → List Happening → Prop := List.Forall₂ (Happening.Alike t t')

end Data

section Facts
variable {t t' : Token}

/-- A choice that is made alike on both sides. -/
theorem related_ite {α : Type} {V : α → α → Prop} {c : Prop} [Decidable c] {x x' y y' : α}
    (hx : V x y) (hx' : V x' y') : V (if c then x else x') (if c then y else y') := by
  by_cases hc : c
  · rw [if_pos hc, if_pos hc]
    exact hx
  · rw [if_neg hc, if_neg hc]
    exact hx'

theorem ValidationResult.alike_ok : ValidationResult.ok.Alike t t' .ok := ⟨rfl, rfl, .none⟩

theorem ValidationResult.Alike.errors {r r' : ValidationResult} (hr : r.Alike t t' r') :
    r'.errors = r.errors := by
  rw [ValidationResult.errors, ValidationResult.errors, hr.messages]

/-- The texts of a failure do not show a key. -/
theorem Failure.Alike.layers {f f' : Failure} (hf : f.Alike t t' f') : f'.layers = f.layers := by
  cases hf with
  | same => rfl
  | rejected contexts typeName hr => rfl

theorem Failure.Alike.report {f f' : Failure} (hf : f.Alike t t' f') : f'.report = f.report := by
  rw [Failure.report, Failure.report, hf.layers]

theorem Failure.Alike.text {f f' : Failure} (hf : f.Alike t t' f') : f'.text = f.text := by
  rw [Failure.text, Failure.text, hf.layers]

theorem Raise.alike_refl (e : Raise) : e.Alike t t' e := by
  cases e with
  | failure f => exact .failure (.same f)
  | panic p => exact .panic p

theorem outcomeAlike_refl {α : Type} (outcome : Outcome α) :
    OutcomeAlike t t' Eq outcome outcome := by
  cases outcome with
  | ok a => exact .ok rfl
  | error e => exact .error (Raise.alike_refl e)

/-- A failure looks the same to the caller, whichever token is the key to it. -/
theorem SanitizedError.alike_ofFailure {f f' : Failure} (hf : f.Alike t t' f') :
    (SanitizedError.ofFailure f t).Alike t t' (SanitizedError.ofFailure f' t') := by
  cases hf with
  | same f =>
    unfold SanitizedError.ofFailure
    cases f.validation? with
    | none => exact ⟨rfl, rfl, .some⟩
    | some r => exact ⟨rfl, rfl, .some⟩
  | rejected contexts typeName hr => exact ⟨rfl, hr.messages, .some⟩

theorem SanitizedError.alike_ofValidation {r r' : ValidationResult} (hr : r.Alike t t' r') :
    (SanitizedError.ofValidation r).Alike t t' (SanitizedError.ofValidation r') :=
  ⟨rfl, hr.messages, hr.logKey⟩

/-- An error that has the text of the one token as its key becomes one with that of the other. -/
theorem SanitizedError.Alike.eq_of_some {e e' : SanitizedError} {key : String}
    (he : e.Alike t t' e') (hkey : e.logKey = some key) :
    e' = { e with logKey := some t'.text } := by
  obtain ⟨hrejected, hmessages, hlogKey⟩ := he
  rw [hkey] at hlogKey
  obtain ⟨rejected, messages, logKey⟩ := e'
  cases hlogKey with
  | some => rw [← hrejected, ← hmessages]

theorem CallerResult.Alike.isSuccess {r r' : CallerResult} (hr : r.Alike t t' r') :
    r'.isSuccess = r.isSuccess := by
  cases hr with
  | success => rfl
  | error => rfl

end Facts

/-! ## Programs that do not look at the token -/

/-- The programs make the same requests as long as the replies are alike, and end in outcomes that
are. -/
inductive Program.Agrees {I : Interface} (t t' : Token)
    (replies : (q : I.Request) → I.Reply q → I.Reply q → Prop) {α : Type} :
    Program I α → Program I α → Prop
  | done {outcome outcome' : Outcome α} (houtcome : OutcomeAlike t t' Eq outcome outcome') :
      Agrees t t' replies (.done outcome) (.done outcome')
  | ask {q : I.Request} {next next' : I.Reply q → Program I α}
      (hnext : ∀ reply reply', replies q reply reply' →
        Agrees t t' replies (next reply) (next' reply')) :
      Agrees t t' replies (.ask q next) (.ask q next')

section Replies
variable (t t' : Token)

/-- Replies of the context of a chain: the view has the one token or the other, and outcomes may be
failures with the one key or the other. -/
def ContextRequest.Alike : (q : ContextRequest) → q.Reply → q.Reply → Prop
  | .execute _ => OutcomeAlike t t' Eq
  | .executeWithEvents .. => OutcomeAlike t t' Eq
  | .executeRoot _ => OutcomeAlike t t' Eq
  | .emit _ => OutcomeAlike t t' Eq
  | .dispatch _ => OutcomeAlike t t' Eq
  | .dispatchSafe _ => Eq
  | .view => fun v v' => v.token = t ∧ v' = { v with token := t' }
  | .sign _ => Eq

/-- Replies of the context of a validation: the view has the one token or the other. -/
def ValidationRequest.Alike : (q : ValidationRequest) → q.Reply → q.Reply → Prop
  | .record _ => Eq
  | .ambientValues => Eq
  | .view => fun v v' => v.token = t ∧ v' = { v with token := t' }
  | .sign _ => Eq

/-- The code in a chain looks neither at the token nor at keys. -/
def ChainProgram.Blind {α : Type} (p : ChainProgram α) : Prop :=
  Program.Agrees t t' (ContextRequest.Alike t t') p p

/-- The code in a validation looks not at the token. -/
def ValidationProgram.Blind {α : Type} (p : ValidationProgram α) : Prop :=
  Program.Agrees t t' (ValidationRequest.Alike t t') p p

/-- Nothing that the services of a registry give looks at the token. -/
structure Registry.Blind {D : Type} (r : Registry D) (services : D) : Prop where
  gives : r.Gives services (ChainProgram.Blind t t')
  incoming : ∀ d ∈ r.descriptors, ∀ slot ∈ d.incomingValidators,
    slot.All services fun validator => ∀ o, ValidationProgram.Blind t t' (validator services o)
  handling : ∀ d ∈ r.descriptors, ∀ slot ∈ d.handlingValidators,
    slot.All services fun validator => ∀ o, ValidationProgram.Blind t t' (validator services o)

end Replies
end CommandEngine
