import CommandEngine.Kind
import CommandEngine.Message
import CommandEngine.Text.Quoted

/-! # Errors, failures and panics

The engine's own errors are causes (`EngineError`); their wording is in `EngineError.text` alone.
Application code fails with a *failure*: a cause, either one of the engine's errors or a text of
its own, under the contexts that were put around it on its way up.  Whoever looks for an engine
error finds it below any number of contexts.

Application code may also *panic*.  A panic carries a text or something that is not text.  `Raise`
is either way of not returning, and an `Outcome` is a value or a raise.
-/
namespace CommandEngine

/-- What the engine itself objects to. -/
inductive EngineError where
  /-- The call chain is not in the state that the operation needs. -/
  | invalidState (reason : String)
  | unknownType (typeName : String)
  | noHandler (typeName : String)
  | kindMismatch (typeName expected : String) (actual : Kind)
  /-- The handling validators of a command rejected it. -/
  | validationFailed (typeName : String) (result : ValidationResult)
  | typeMismatch (expected : String)
  | invalidRunnerCount (requested max : Nat)
  | hostShuttingDown
  | scopeCreation (message : String)
  | ambientRestore (message : String)
  deriving DecidableEq, Repr, Inhabited

namespace EngineError

/-- The wording. -/
def text : EngineError → String
  | invalidState reason => s!"invalid execution state: {reason}"
  | unknownType typeName => s!"type {typeName} is not registered"
  | noHandler typeName => s!"no handler for command type {typeName}"
  | kindMismatch typeName expected actual => s!"{typeName} is a {actual.text}, expected {expected}"
  | validationFailed typeName _ => s!"validation of {typeName} failed"
  | typeMismatch expected => s!"type mismatch: expected {expected}"
  | invalidRunnerCount requested max => s!"runner count {requested} is out of range [1, {max}]"
  | hostShuttingDown => "execution host is shutting down"
  | scopeCreation message => s!"failed to create job scope: {message}"
  | ambientRestore message => s!"failed to restore ambient values: {message}"

/-- The chain was in a wrong state. -/
def isInvalidState : EngineError → Bool
  | invalidState _ => true
  | _ => false

/-- The name of the error in reports for machines. -/
def name : EngineError → String
  | invalidState _ => "InvalidState"
  | unknownType _ => "UnknownType"
  | noHandler _ => "NoHandler"
  | kindMismatch .. => "KindMismatch"
  | validationFailed .. => "ValidationFailed"
  | typeMismatch _ => "TypeMismatch"
  | invalidRunnerCount .. => "InvalidRunnerCount"
  | hostShuttingDown => "HostShuttingDown"
  | scopeCreation _ => "ScopeCreation"
  | ambientRestore _ => "AmbientRestore"

/-! ### States that an operation objects to -/

/-- A root command while a chain is active. -/
def chainActive : EngineError := invalidState "a call chain is already active"
/-- A nested command outside a chain. -/
def noChainToExecute : EngineError := invalidState "no active call chain to execute a command"
/-- An event emitted outside a chain. -/
def noChainToEmit : EngineError := invalidState "no active call chain to emit an event"
/-- The chain of a nested command is gone when the command returns. -/
def chainEnded : EngineError := invalidState "call chain ended during a nested command"

end EngineError

/-- The root of a failure. -/
inductive Cause where
  | engine (e : EngineError)
  | other (text : String)
  deriving DecidableEq, Repr, Inhabited

/-- The wording. -/
def Cause.text : Cause → String
  | engine e => e.text
  | other text => text

/-- A cause under contexts, the outermost context first. -/
structure Failure where
  contexts : List String
  cause : Cause
  deriving DecidableEq, Repr, Inhabited

namespace Failure

/-- A failure with a text of its own. -/
def other (text : String) : Failure := ⟨[], .other text⟩

/-- A failure that is one of the engine's errors. -/
def engine (e : EngineError) : Failure := ⟨[], .engine e⟩

instance : Coe EngineError Failure := ⟨engine⟩

/-- Puts a context around a failure. -/
def withContext (f : Failure) (context : String) : Failure := ⟨context :: f.contexts, f.cause⟩

/-- The engine's error at the root, if it is one. -/
def engineError? (f : Failure) : Option EngineError :=
  match f.cause with
  | .engine e => some e
  | .other _ => none

/-- At the root is an error about the state of the chain. -/
def isInvalidState (f : Failure) : Bool := (f.engineError?.map (·.isInvalidState)).getD false

/-- The validation result of a rejected command. -/
def validation? (f : Failure) : Option ValidationResult :=
  match f.engineError? with
  | some (.validationFailed _ result) => some result
  | _ => none

/-- The texts from the outermost context down to the cause. -/
def layers (f : Failure) : List String := f.contexts ++ [f.cause.text]

/-- The layers on one line. -/
def text (f : Failure) : String := ": ".intercalate f.layers

/-- The causes below the outermost text: a single one stands alone, several are numbered. -/
def reportCauses : List String → String
  | [] => ""
  | [cause] => "\n\nCaused by:\n    " ++ Text.hang 4 cause
  | causes => "\n\nCaused by:" ++ String.join (causes.zipIdx.map fun (cause, i) =>
      let number := toString i
      "\n" ++ String.ofList (List.replicate (5 - number.length) ' ') ++ number ++ ": " ++
        Text.hang 7 cause)

/-- The report of a failure in the log: the outermost text, then what caused it. -/
def report (f : Failure) : String :=
  match f.layers with
  | [] => ""
  | head :: causes => head ++ reportCauses causes

@[simp] theorem engineError?_withContext (f : Failure) (context : String) :
    (f.withContext context).engineError? = f.engineError? := rfl

@[simp] theorem validation?_withContext (f : Failure) (context : String) :
    (f.withContext context).validation? = f.validation? := rfl

end Failure

/-- What a panic carries. -/
inductive Panic where
  | text (s : String)
  | other
  deriving DecidableEq, Repr, Inhabited

/-- The text of a panic in the log. -/
def Panic.logText : Panic → String
  | text s => s
  | other => "unknown panic"

/-- A way of not returning. -/
inductive Raise where
  | failure (f : Failure)
  | panic (p : Panic)
  deriving DecidableEq, Repr, Inhabited

instance : Coe EngineError Raise := ⟨fun e => .failure e⟩

/-- A value, a failure or a panic. -/
abbrev Outcome (α : Type) := Except Raise α

end CommandEngine
