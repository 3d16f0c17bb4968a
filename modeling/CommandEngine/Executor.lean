import CommandEngine.Handler
import CommandEngine.ScopeData

/-! # Executors and jobs

A job takes one root command away from its caller: it has the command, the data from which its
services are built, and an executor, through whose hooks the application takes part in the job.
Creating the scope, restoring ambient values and looking at an immediate event may fail; the other
hooks are told what happened and cannot object, though any hook may panic.

When a job has been run there is a report for its caller, which a callback may see first.
-/
namespace CommandEngine

/-- What hooks are told about a job. -/
structure JobInfo where
  command : Object
  token : Token
  deriving DecidableEq, Inhabited

/-- The report on a job. -/
structure ExecutedCommand where
  command : Object
  token : Token
  result : CallerResult
  /-- The handling validation of the root command, if it ran to its end. -/
  validation : Option ValidationResult
  /-- The final events. -/
  events : List Object
  deriving DecidableEq, Inhabited

/-- The application's part in a job. -/
structure Executor (D : Type) where
  /-- Builds the job's services. -/
  createScope : JobInfo → ScopeData → Act D
  /-- Installs ambient values and gives the services that have them. -/
  restoreAmbientValues : D → AmbientValues → Act D
  onValidationResult : JobInfo → ValidationResult → Notice
  onImmediateEvent : JobInfo → Object → Act Unit
  onFinalResult : JobInfo → CallerResult → List Object → Notice
  /-- Releases the job's services. -/
  disposeScope : JobInfo → D → Notice

/-- A root command waiting for a runner. -/
structure Job (D : Type) where
  info : JobInfo
  scopeData : ScopeData
  executor : Executor D
  /-- Sees the report before the caller does. -/
  report : Option (ExecutedCommand → Notice)

namespace Executor

variable {D : Type}

/-- An executor that only builds scopes. -/
def ofFactory (factory : ScopeData → Act D) : Executor D where
  createScope _ data := factory data
  restoreAmbientValues services _ := pure services
  onValidationResult _ _ := .silent
  onImmediateEvent _ _ := pure ()
  onFinalResult _ _ _ := .silent
  disposeScope _ _ := .silent

/-- Notes a call down. -/
def note (recorder : String) (call : ExecutorCall) : Act Unit := Act.sign (.recorded recorder call)

/-- An executor that notes down every call of a hook, whatever comes of it. -/
def recording (recorder : String) (factory : ScopeData → Act D)
    (restore : Option (D → AmbientValues → Act D)) : Executor D where
  createScope _ data := do
    note recorder .createScope
    factory data
  restoreAmbientValues services values := do
    note recorder .restoreAmbientValues
    match restore with
    | some restore => restore services values
    | none => pure services
  onValidationResult _ result := .ofAct (note recorder (.validationResult result.success))
  onImmediateEvent _ event := note recorder (.immediateEvent event.type.shortName)
  onFinalResult _ result events :=
    .ofAct (note recorder (.finalResult result.isSuccess events.length))
  disposeScope _ _ := .ofAct (note recorder .disposeScope)

end Executor
end CommandEngine
