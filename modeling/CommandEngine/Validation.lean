import CommandEngine.Registry.Descriptor

/-! # Validating an object

An object is validated twice: where it enters the process (*incoming*) and right before its
handler runs (*handling*).  At either stage its validators run in the order of registration and
record messages in one collector; the result is a success unless an error was recorded, and only a
failed result carries the text of the token as its key to the log.

The stages differ in what a failing or panicking validator does.  Incoming validation contains it:
the failure is logged, one message of fixed wording takes its place, and no further validator
runs.  Handling validation passes it on.  A command without handling validators is valid without
further ado.

Validators may ask for ambient values.  The provider is called at the first request and, unless it
fails, at no later one.
-/
namespace CommandEngine

/-- The state of a validation: the messages so far, and the ambient values once they are there. -/
structure ValidationState where
  collector : Collector
  ambient : Option AmbientValues
  deriving DecidableEq, Inhabited

namespace Validation

/-- The message in place of a failure that stays inside. -/
def unhandledText : String := "Unhandled validation error."

/-- The message for an object of an unregistered type. -/
def unknownText : String := "Unknown command or event."

/-- A computation inside a validation. -/
abbrev Step (α : Type) := StateT ValidationState Account α

/-- No message, no ambient values. -/
def start : ValidationState := ⟨.empty, none⟩

/-- Records a message. -/
def record (m : UserMessage) : Step Unit :=
  modify fun s => { s with collector := s.collector.add m }

/-- The result of a validation that has ended. -/
def finish (token : Token) (s : ValidationState) : ValidationResult :=
  s.collector.toResult (if s.collector.hasError then some token.text else none)

section Stage

variable {D : Type} (registry : Registry D) (services : D) (stage : ValidationStage) (token : Token)

/-- The ambient values, made when they are first asked for. -/
def ambientValues : Step (Outcome AmbientValues) := do
  match (← get).ambient with
  | some values => return .ok values
  | none =>
    Account.mark .ambientRequested
    let made ← match registry.provider with
      | some provider => Account.act (provider services)
      | none => pure (.ok .empty)
    if let .ok values := made then
      modify fun s => { s with ambient := some values }
    return made

/-- Answers a validator's requests. -/
def answer : (q : ValidationRequest) → Step q.Reply
  | .record m => record m
  | .ambientValues => ambientValues registry services
  | .view => do
    let s ← get
    return ⟨stage, token, s.ambient.isSome, s.collector⟩
  | .sign s => StateT.lift (Traced.tell (.sign s))

/-- Obtains a validator and runs it. -/
def call (o : Object) (slot : Slot D (Validator D)) (index : Nat) : Step (Outcome Unit) := do
  Account.mark (.validator stage o.type.name index)
  match ← Account.act (slot.resolve services) with
  | .error e => return .error e
  | .ok validator => (validator services o).interpret (answer registry services stage token)

/-- Runs validators up to the first that does not return. -/
def callAll (o : Object) : List (Slot D (Validator D) × Nat) → Step (Outcome Unit)
  | [] => return .ok ()
  | (slot, index) :: rest => do
    match ← call registry services stage token o slot index with
    | .ok () => callAll o rest
    | .error e => return .error e

end Stage

/-- How a raise is named in the record of a contained failure. -/
def containedText : Raise → String
  | .failure f => f.report
  | .panic p => "validator panicked: " ++ p.logText

/-- A failed result leaves a record. -/
def logOutcome (stage : ValidationStage) (typeName : String) (token : Token)
    (r : ValidationResult) : Account Unit :=
  if r.success then pure ()
  else Account.log (.validationFailed token stage typeName r.errors.length)

section Stages

variable {D : Type} (registry : Registry D) (services : D) (token : Token)

/-- Runs the incoming validators and contains the first failure. -/
def callIncoming (o : Object) : List (Slot D (Validator D) × Nat) → Step Unit
  | [] => return ()
  | (slot, index) :: rest => do
    match ← call registry services .incoming token o slot index with
    | .ok () => callIncoming o rest
    | .error e =>
      Account.log (.incomingValidatorFailed token o.type.name index (containedText e))
      record (.plain .error unhandledText)

/-- Validates an object that enters the process.  This never fails. -/
def incoming (o : Object) : Account ValidationResult := do
  match registry.descriptorOf? o with
  | none =>
    Account.log (.unknownIncoming token o.type.name)
    let (_, s) ← (record (.plain .error unknownText)).run start
    return finish token s
  | some d =>
    let (_, s) ← (callIncoming registry services token o d.incomingValidators.zipIdx).run start
    let result := finish token s
    logOutcome .incoming o.type.name token result
    return result

/-- Validates a command that is about to be handled. -/
def handling (o : Object) : ExceptT Raise Account ValidationResult := do
  match registry.require o with
  | .error e => throw (.failure e)
  | .ok d =>
    if d.handlingValidators.isEmpty then
      return .ok
    else
      let (outcome, s) ←
        (callAll registry services .handling token o d.handlingValidators.zipIdx).run start
      match outcome with
      | .error e => throw e
      | .ok () =>
        let result := finish token s
        logOutcome .handling o.type.name token result
        return result

end Stages
end Validation
end CommandEngine
