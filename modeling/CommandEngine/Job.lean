import CommandEngine.Chain
import CommandEngine.Executor

/-! # Running a job

A job goes through these stages:

* the scope is created;
* in the scope, the ambient values are restored if there are any, the root command is validated,
  the executor is told the result, and a valid command is executed as the root of a chain of its
  own;
* the executor is told the final result, unless the command was rejected by its validators;
* the scope is disposed of.

A failure or a panic in a stage is logged and contained, so that the later stages that are due
still run.  What reaches the caller is sanitized: a rejected command shows its messages,
everything else the generic message.  The errors of creating the scope and of restoring ambient
values are wrapped, so not even a failed validation shows through them.

Immediate events go to the executor's hook and, when it accepts them, to the caller's stream.
-/
namespace CommandEngine

/-- How a job went. -/
structure JobRun where
  result : CallerResult
  validation : Option ValidationResult
  events : List Object
  /-- The executor is told the final result. -/
  notifyFinal : Bool
  deriving DecidableEq, Inhabited

namespace JobRun

/-- A job that failed. -/
def failed (f : Failure) (token : Token) (validation : Option ValidationResult) : JobRun :=
  ⟨.error (.ofFailure f token), validation, [], true⟩

/-- A job whose command was rejected. -/
def rejected (r : ValidationResult) : JobRun := ⟨.error (.ofValidation r), some r, [], false⟩

/-- A job whose command was executed. -/
def succeeded (o : ExecutionOutcome) (r : ValidationResult) : JobRun :=
  ⟨.success o.result, some r, o.events, true⟩

end JobRun

/-- What is known of a job while it runs in its scope. -/
structure JobScope (D : Type) where
  services : D
  /-- The validation result that the executor was told. -/
  validation : Option ValidationResult

namespace Job

/-- Calls a hook that may fail. -/
def hook {α : Type} (call : HookCall) (a : Act α) : Account (Outcome α) := do
  Account.mark (.hook call)
  Account.act a

/-- Calls a hook that cannot fail. -/
def notify (call : HookCall) (n : Notice) : Account (Outcome Unit) := do
  Account.mark (.hook call)
  Account.notice n

/-- Contains a panic of a stage: it is logged and becomes a failure. -/
def guarded {α : Type} (token : Token) (stage : JobStage) (x : Run (Outcome α)) :
    Run (Except Failure α) := do
  match ← x with
  | .ok a => return .ok a
  | .error (.failure f) => return .error f
  | .error (.panic p) =>
    Account.log (.stagePanicked token stage p)
    return .error (.other (stage.text ++ " panicked: " ++ p.logText))

section Stages

variable {D : Type} (registry : Registry D) (party : String) (job : Job D)

/-- The job's sink of immediate events. -/
def sink : Sink where
  receive event := do
    match ← hook (.immediateEvent event) (job.executor.onImmediateEvent job.info event) with
    | .ok () =>
      Traced.tell (.streamed event)
      return .ok ()
    | .error e => return .error e
  outside event m hm := by
    refine ⟨.immediateEvent event, ?_⟩
    rw [Traced.history_bind] at hm
    rcases List.mem_append.mp hm with hhook | hrest
    · rcases List.mem_append.mp hhook with hmark | hact
      · exact Happening.mark.inj (List.mem_singleton.mp hmark)
      · exact (Account.mark_not_mem_act _ _ hact).elim
    · split at hrest
      · rcases List.mem_append.mp hrest with htell | hnone
        · cases List.mem_singleton.mp htell
        · cases hnone
      · cases hrest

/-- The environment of the job's chain. -/
def environment (services : D) : Environment D :=
  ⟨registry, services, job.info.token, party, some job.sink⟩

/-- A computation inside the job's scope. -/
abbrev InScope (D α : Type) := ExceptT Raise (StateT (JobScope D) Run) α

/-- Restores the ambient values that the job carries. -/
def restore : InScope D Unit := do
  match job.scopeData.ambient with
  | none => return ()
  | some values =>
    let services := (← get).services
    match ← (liftM (hook (.restoreAmbientValues values)
        (job.executor.restoreAmbientValues services values)) : InScope D (Outcome D)) with
    | .ok services => modify fun s => { s with services }
    | .error (.failure f) => throw (EngineError.ambientRestore f.text : Raise)
    | .error (.panic p) => throw (.panic p)

/-- Validates the root command and tells the executor. -/
def validate : InScope D ValidationResult := do
  let services := (← get).services
  let outcome ← (Validation.handling registry services job.info.token job.info.command).run
  let result ← (liftExcept outcome : InScope D ValidationResult)
  let told ← notify (.validationResult result) (job.executor.onValidationResult job.info result)
  liftExcept told
  modify fun s => { s with validation := some result }
  return result
where
  liftExcept {α : Type} (outcome : Outcome α) : InScope D α := ExceptT.mk (pure outcome)

/-- What is done inside the scope. -/
def runInScope : InScope D JobRun := do
  restore job
  let result ← validate registry job
  if result.success then
    let services := (← get).services
    let context : Context D := ⟨environment registry party job services, []⟩
    let (outcome, _) ← (liftM (context.executeValidated job.info.command) :
      InScope D (Outcome ExecutionOutcome × Context D))
    let outcome ← (ExceptT.mk (pure outcome) : InScope D ExecutionOutcome)
    return .succeeded outcome result
  else
    return .rejected result

/-- Tells the executor how the job went. -/
def reportFinal (run : JobRun) : Run Unit := do
  let told : Run (Outcome Unit) := liftM (notify (.finalResult run.result run.events)
    (job.executor.onFinalResult job.info run.result run.events))
  match ← guarded job.info.token .finalResult told with
  | .ok () => return ()
  | .error f => Account.log (.stageFailed job.info.token .finalResult f)

/-- Disposes of the job's scope. -/
def dispose (services : D) : Run Unit := do
  let told : Run (Outcome Unit) := liftM (notify .disposeScope
    (job.executor.disposeScope job.info services))
  match ← guarded job.info.token .disposeScope told with
  | .ok () => return ()
  | .error f => Account.log (.stageFailed job.info.token .disposeScope f)

/-- All stages of a job. -/
def run : Run JobRun := do
  let token := job.info.token
  let creation : Run (Outcome D) := liftM (hook .createScope
    (job.executor.createScope job.info job.scopeData))
  match ← guarded token .createScope creation with
  | .error f =>
    let f : Failure := EngineError.scopeCreation f.text
    Account.log (.stageFailed token .createScope f)
    let failed := JobRun.failed f token none
    reportFinal job failed
    return failed
  | .ok services =>
    let inScope : Run (Outcome JobRun × JobScope D) :=
      ((runInScope registry party job).run).run ⟨services, none⟩
    let (outcome, scope) ← inScope
    let executed ← guarded token .job (pure outcome)
    let run ← match executed with
      | .ok run => pure run
      | .error f => do
        Account.log (.stageFailed token .job f)
        pure (JobRun.failed f token scope.validation)
    if run.notifyFinal then
      reportFinal job run
    dispose job scope.services
    return run

/-- Runs a job up to its report.  The report reaches the caller unless the callback panics. -/
def process : Run (Option ExecutedCommand) := do
  let run ← run registry party job
  if run.result.isSuccess then
    Account.log (.jobCompleted run.events.length)
  let executed : ExecutedCommand :=
    ⟨job.info.command, job.info.token, run.result, run.validation, run.events⟩
  match job.report with
  | none => return some executed
  | some report =>
    match ← (liftM (Account.notice (report executed)) : Run (Outcome Unit)) with
    | .error (.panic p) =>
      Account.log (.reportingPanicked job.info.token p)
      return none
    | _ => return some executed

end Stages
end Job
end CommandEngine
