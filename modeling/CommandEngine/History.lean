import CommandEngine.Ambient
import CommandEngine.Election
import CommandEngine.SanitizedError
import CommandEngine.Traced

/-! # What happens while commands run

The history of a computation has entries of four sorts.

* A *sign* is made by application code: an entry in the trace it keeps, a wait for a permit of a
  gate, or a call that a recording executor noted down.
* A *log event* is a record of the engine for those who operate it.  Records name the issuer
  token, so that they can be found from what the caller was told.
* A *mark* is the engine's own account of what it does, finer than the log: which validator,
  handler and hook was called, which frame was opened and how it was closed, where each event
  went.
* An event may be *streamed* to the caller of a job.
-/
namespace CommandEngine

/-! ## Signs -/

/-- A hook call as a recording executor notes it. -/
inductive ExecutorCall where
  | createScope
  | restoreAmbientValues
  | validationResult (success : Bool)
  /-- The short name of the event's type. -/
  | immediateEvent (shortName : String)
  | finalResult (success : Bool) (events : Nat)
  | disposeScope
  deriving DecidableEq, Repr, Inhabited

/-- The description of a recorded call. -/
def ExecutorCall.describe : ExecutorCall → String
  | createScope => "CreateScope"
  | restoreAmbientValues => "RestoreAmbientValues"
  | validationResult success =>
    "ValidationResult \x7b success: " ++ Text.yesNo success ++ " \x7d"
  | immediateEvent shortName => "ImmediateEvent(" ++ Text.quoted shortName ++ ")"
  | finalResult success events =>
    "FinalResult \x7b success: " ++ Text.yesNo success ++ ", events: " ++ toString events ++ " \x7d"
  | disposeScope => "DisposeScope"

/-- What application code does besides computing. -/
inductive Sign where
  | note (entry : Json)
  | wait (gate : String)
  | recorded (recorder : String) (call : ExecutorCall)
  deriving DecidableEq, Inhabited

/-- Application code that sees nothing of a call chain: it makes signs, and ends in an outcome. -/
abbrev Act (α : Type) := ExceptT Raise (Traced Sign) α

namespace Act

variable {α : Type}

/-- Makes a sign. -/
def sign (s : Sign) : Act Unit := ExceptT.lift (Traced.tell s)

/-- The signs an act makes. -/
def signs (a : Act α) : List Sign := a.run.history

/-- How an act ends. -/
def outcome (a : Act α) : Outcome α := a.run.value

end Act

/-- Application code that cannot fail but may panic. -/
structure Notice where
  signs : List Sign
  panic : Option Panic

namespace Notice

/-- Nothing is done. -/
def silent : Notice := ⟨[], none⟩

/-- An act for its signs and its panic; its failure has no effect. -/
def ofAct {α : Type} (a : Act α) : Notice :=
  ⟨a.signs, match a.outcome with
    | .error (.panic p) => some p
    | _ => none⟩

end Notice

/-! ## Log events -/

/-- The two stages at which an object is validated. -/
inductive ValidationStage where
  | incoming
  | handling
  deriving DecidableEq, Repr, Inhabited

/-- The name in records. -/
def ValidationStage.text : ValidationStage → String
  | incoming => "incoming"
  | handling => "handling"

/-- The parts of a job in which application code is contained. -/
inductive JobStage where
  | createScope
  | job
  | finalResult
  | disposeScope
  deriving DecidableEq, Repr, Inhabited

/-- The name in records. -/
def JobStage.text : JobStage → String
  | createScope => "create_scope"
  | job => "job"
  | finalResult => "on_final_result"
  | disposeScope => "dispose_scope"

/-- How grave a record is. -/
inductive LogLevel where
  | info
  | warn
  | error
  deriving DecidableEq, Repr, Inhabited

/-- The name in records. -/
def LogLevel.text : LogLevel → String
  | info => "INFO"
  | warn => "WARN"
  | error => "ERROR"

/-- A record of the engine. -/
inductive LogEvent where
  | candidateDropped (command : TypeKey) (candidate : Candidate) (objection : Objection)
  | registryBuilt (types handledCommands : Nat)
  | unknownIncoming (token : Token) (typeName : String)
  | incomingValidatorFailed (token : Token) (typeName : String) (index : Nat) (error : String)
  | validationFailed (token : Token) (stage : ValidationStage) (typeName : String) (errors : Nat)
  | dispatchFailed (token : Token) (eventName : String) (failure : Failure)
  | eventHandlerPanicked (token : Token) (eventName : String) (panic : Panic)
  | stagePanicked (token : Token) (stage : JobStage) (panic : Panic)
  | stageFailed (token : Token) (stage : JobStage) (failure : Failure)
  | jobCompleted (events : Nat)
  | reportingPanicked (token : Token) (panic : Panic)
  | jobRejected (token : Token)
  | hostStarted (runners : Nat) (party : String)
  | countChanged (before after live : Nat)
  | countChangeRejected (requested : Nat)
  | converged (runners convergences : Nat)
  | shuttingDown (runners : Nat)
  | stopped
  deriving DecidableEq, Inhabited

namespace LogEvent

/-- How grave a record is. -/
def level : LogEvent → LogLevel
  | candidateDropped _ _ (.notOwner _) => .info
  | candidateDropped .. | unknownIncoming .. | validationFailed .. | jobRejected _
  | countChangeRejected _ => .warn
  | incomingValidatorFailed .. | dispatchFailed .. | eventHandlerPanicked .. | stagePanicked ..
  | stageFailed .. | reportingPanicked .. => .error
  | registryBuilt .. | jobCompleted _ | hostStarted .. | countChanged .. | converged ..
  | shuttingDown _ | stopped => .info

/-- The message of a record. -/
def message : LogEvent → String
  | candidateDropped _ _ objection => "handler candidate ignored: " ++
    match objection with
    | .notOwner _ => "not the owning service"
    | .notClosed => "parameter is not the closed command type"
    | .notAccepting => "parameter does not accept the command"
    | .wrongReturn _ => "incompatible return type"
  | registryBuilt .. => "handler registry built"
  | unknownIncoming .. => "incoming object type is not registered"
  | incomingValidatorFailed .. => "incoming validator failed"
  | validationFailed .. => "validation failed"
  | dispatchFailed .. => "event dispatch failed"
  | eventHandlerPanicked .. => "event handler panicked"
  | stagePanicked .. => "job panicked"
  | stageFailed _ stage _ =>
    match stage with
    | .createScope => "job scope creation failed"
    | .job => "job failed"
    | .finalResult => "final result hook failed"
    | .disposeScope => "job scope disposal failed"
  | jobCompleted _ => "job completed"
  | reportingPanicked .. => "job reporting panicked"
  | jobRejected _ => "job rejected: host is shutting down"
  | hostStarted .. => "execution host started"
  | countChanged .. => "runner count changed"
  | countChangeRejected _ => "runner count change rejected: host is shutting down"
  | converged .. => "runner pool converged"
  | shuttingDown _ => "execution host shutting down"
  | stopped => "execution host stopped"

/-- The token a record names, if it names one. -/
def token? : LogEvent → Option Token
  | unknownIncoming t _ | incomingValidatorFailed t _ _ _ | validationFailed t _ _ _
  | dispatchFailed t _ _ | eventHandlerPanicked t _ _ | stagePanicked t _ _ | stageFailed t _ _
  | reportingPanicked t _ | jobRejected t => some t
  | _ => none

/-- The other fields of a record. -/
def fields : LogEvent → List (String × Json)
  | candidateDropped command candidate objection =>
    [("command", .str command.name), ("handler", .str candidate.label)] ++
    match objection with
    | .notOwner owner => [("owner", .str owner)]
    | .notClosed | .notAccepting => [("parameter", .str candidate.parameter.name)]
    | .wrongReturn expected =>
      [("returns", .str candidate.returns.name), ("expected", .str expected.name)]
  | registryBuilt types handledCommands => [("types", types), ("handled_commands", handledCommands)]
  | unknownIncoming _ typeName => [("type_name", .str typeName)]
  | incomingValidatorFailed _ typeName index error =>
    [("type_name", .str typeName), ("validator", index), ("error", .str error)]
  | validationFailed _ stage typeName errors =>
    [("stage", .str stage.text), ("type_name", .str typeName), ("errors", errors)]
  | dispatchFailed _ eventName failure =>
    [("event", .str eventName), ("error", .str failure.report)]
  | eventHandlerPanicked _ eventName panic =>
    [("event", .str eventName), ("panic", .str panic.logText)]
  | stagePanicked _ stage panic => [("stage", .str stage.text), ("panic", .str panic.logText)]
  | stageFailed _ _ failure => [("error", .str failure.report)]
  | jobCompleted events => [("events", events)]
  | reportingPanicked _ panic => [("panic", .str panic.logText)]
  | jobRejected _ | stopped => []
  | hostStarted runners party => [("runners", runners), ("party", .str party)]
  | countChanged before after live => [("from", before), ("to", after), ("live", live)]
  | countChangeRejected requested => [("requested", requested)]
  | converged runners convergences => [("runners", runners), ("convergences", convergences)]
  | shuttingDown runners => [("runners", runners)]

end LogEvent

/-! ## Marks -/

/-- How the frame of a nested command was closed. -/
inductive Fate where
  /-- Its events went to the calling frame. -/
  | joined
  /-- Its events went to the caller alone. -/
  | withheld
  /-- The command failed, and its events are gone. -/
  | failed
  deriving DecidableEq, Repr, Inhabited

/-- A call of an executor's hook. -/
inductive HookCall where
  | createScope
  | restoreAmbientValues (values : AmbientValues)
  | validationResult (result : ValidationResult)
  | immediateEvent (event : Object)
  | finalResult (result : CallerResult) (events : List Object)
  | disposeScope
  deriving DecidableEq, Inhabited

/-- A step of the engine. -/
inductive Mark where
  /-- A frame was opened for a command. -/
  | opened (command : Object)
  /-- The frame on top was closed. -/
  | closed (fate : Fate)
  /-- The frames above a depth were dropped after a panic. -/
  | cut (depth : Nat)
  /-- The chain was over, and all its frames were dropped. -/
  | ended
  | validator (stage : ValidationStage) (typeName : String) (index : Nat)
  | ambientRequested
  | handler (command : Object)
  | postHandler (command : Object) (index : Nat) (result : CommandResult)
  | eventHandler (event : Object) (index : Nat)
  /-- The dispatch of an event began. -/
  | dispatching (event : Object)
  /-- An event was put on the top frame. -/
  | queued (event : Object)
  /-- An event was given to the immediate sink. -/
  | sunk (event : Object)
  | hook (call : HookCall)
  deriving DecidableEq, Inhabited

/-- An entry of the history of a computation. -/
inductive Happening where
  | sign (s : Sign)
  | log (e : LogEvent)
  | mark (m : Mark)
  | streamed (event : Object)
  deriving DecidableEq, Inhabited

namespace Happening

/-- The record an entry is. -/
def log? : Happening → Option LogEvent
  | log e => some e
  | _ => none

/-- The mark an entry is. -/
def mark? : Happening → Option Mark
  | mark m => some m
  | _ => none

end Happening

/-- A computation of the engine that always ends. -/
abbrev Account (α : Type) := Traced Happening α

namespace Account

variable {α : Type}

/-- Makes a record. -/
def log (e : LogEvent) : Account Unit := Traced.tell (.log e)

/-- Leaves a mark. -/
def mark (m : Mark) : Account Unit := Traced.tell (.mark m)

/-- Runs application code; its outcome is a value. -/
def act (a : Act α) : Account (Outcome α) := (a.run).mapHistory Happening.sign

/-- Runs application code that cannot fail. -/
def notice (n : Notice) : Account (Outcome Unit) :=
  ⟨n.signs.map .sign, match n.panic with
    | some p => .error (.panic p)
    | none => .ok ()⟩

/-- Application code leaves no marks. -/
theorem mark_not_mem_act (a : Act α) (m : Mark) : .mark m ∉ (act a).history := by
  intro hm
  obtain ⟨_, -, hsign⟩ := List.mem_map.mp hm
  cases hsign

end Account
end CommandEngine
