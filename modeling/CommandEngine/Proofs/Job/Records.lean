import CommandEngine.Proofs.Chain.Records
import CommandEngine.Proofs.Job.Hooks

/-!
# The records of a job

A job contains whatever its stages raise, and the caller is shown next to nothing of it.  So each
stage that fails or panics must leave its own record, or nobody would know.  The stages and what
they ended in are known from the course of the job (`Whole`), and each of them is followed by its
records before the next one begins.  What happens within a stage makes no records of errors but
those of safe dispatches: application code makes none, the handling validation makes none, and the
chain of the root command is taken care of by `Chain.apart_executeRoot`.
-/
namespace CommandEngine
namespace Job

open Run Chain

/-! ## What the stages ended in -/

/-- The records of a stage that failed or panicked, when `f` is the failure that is told outside. -/
def raiseErrors (token : Token) (stage : JobStage) (f : Failure) : Raise → List LogEvent
  | .failure _ => [.stageFailed token stage f]
  | .panic p => [.stagePanicked token stage p, .stageFailed token stage f]

/-- The records of a stage. -/
def stageErrors {α : Type} (token : Token) (stage : JobStage) : Outcome α → List LogEvent
  | .ok _ => []
  | .error e => raiseErrors token stage (e.contained stage) e

theorem stageErrors_map {α β : Type} {token : Token} {stage : JobStage} {out : Outcome α}
    {f : α → β} : stageErrors token stage (out.map f) = stageErrors token stage out := by
  cases out <;> rfl

/-- What the stages of a job ended in, those that were due, and the panic of the callback that sees
the report. -/
structure Ending where
  createScope : Outcome Unit
  job : Option (Outcome Unit)
  finalResult : Option (Outcome Unit)
  disposeScope : Option (Outcome Unit)
  report : Option Panic

/-- The records of creating the scope, whose failure is wrapped. -/
def creationErrors (token : Token) : Outcome Unit → List LogEvent
  | .ok () => []
  | .error e => raiseErrors token .createScope (creationFailure e) e

/-- The records of errors that the stages of a job are due, in order. -/
def Ending.errors (token : Token) (o : Ending) : List LogEvent :=
  creationErrors token o.createScope ++ (o.job.elim [] (stageErrors token .job) ++
    (o.finalResult.elim [] (stageErrors token .finalResult) ++
      (o.disposeScope.elim [] (stageErrors token .disposeScope) ++
        o.report.toList.map (.reportingPanicked token))))

/-- Every stage that was due returned. -/
structure Ending.Returned (o : Ending) : Prop where
  createScope : o.createScope = .ok ()
  job : ∀ out ∈ o.job, out = .ok ()
  finalResult : ∀ out ∈ o.finalResult, out = .ok ()
  disposeScope : ∀ out ∈ o.disposeScope, out = .ok ()
  report : o.report = none

theorem raiseErrors_ne_nil {token : Token} {stage : JobStage} {f : Failure} {e : Raise} :
    raiseErrors token stage f e ≠ [] := by
  cases e <;> exact List.cons_ne_nil _ _

theorem creationErrors_eq_nil {token : Token} {out : Outcome Unit} :
    creationErrors token out = [] ↔ out = .ok () := by
  rcases out with e | _
  · exact ⟨fun hnone => absurd hnone raiseErrors_ne_nil, nofun⟩
  · exact ⟨fun _ => rfl, fun _ => rfl⟩

theorem stageErrors_eq_nil {token : Token} {stage : JobStage} {due : Option (Outcome Unit)} :
    due.elim [] (stageErrors token stage) = [] ↔ ∀ out ∈ due, out = .ok () := by
  rcases due with _ | e | _
  · exact ⟨nofun, fun _ => rfl⟩
  · exact ⟨fun hnone => absurd hnone raiseErrors_ne_nil, fun hall => nomatch hall _ rfl⟩
  · exact ⟨fun _ out hout => (Option.some.inj hout).symm, fun _ => rfl⟩

/-- No record is due exactly if all stages returned. -/
theorem Ending.errors_eq_nil {token : Token} {o : Ending} : o.errors token = [] ↔ o.Returned := by
  simp only [Ending.errors, List.append_eq_nil_iff, creationErrors_eq_nil, stageErrors_eq_nil,
    List.map_eq_nil_iff, Option.toList_eq_nil_iff]
  constructor
  · rintro ⟨hscope, hjob, hfinal, hdisposal, hreport⟩
    exact ⟨hscope, hjob, hfinal, hdisposal, hreport⟩
  · rintro ⟨hscope, hjob, hfinal, hdisposal, hreport⟩
    exact ⟨hscope, hjob, hfinal, hdisposal, hreport⟩

section Stages

variable {D : Type} (registry : Registry D) (party : String) (job : Job D)

/-- What the stages of a job ended in.  All of what is done inside the scope is one stage; the
executor is told of the final result unless the command was rejected, and there is something to
dispose of unless the scope could not be created. -/
inductive Stages : JobRun → Ending → Prop
  | notCreated {e : Raise} (hcreated : (created job).value = .error e) :
    Stages (.failed (creationFailure e) job.info.token none) {
      createScope := .error e
      job := none
      finalResult := some (toldFinal job (.failed (creationFailure e) job.info.token none)).value
      disposeScope := none
      report := Outcome.panic?
        (reported job (.failed (creationFailure e) job.info.token none)).value }
  | created {services : D} {h : List Happening} {out : Outcome JobRun} {s : JobScope D}
      (hcreated : (created job).value = .ok services)
      (hscope : Leads (runInScope registry party job).run ⟨services, none⟩ h out s) :
    Stages (verdict job out s) {
      createScope := .ok ()
      job := some (out.map fun _ => ())
      finalResult := if (verdict job out s).notifyFinal then
        some (toldFinal job (verdict job out s)).value else none
      disposeScope := some (disposed job s.services).value
      report := Outcome.panic? (reported job (verdict job out s)).value }

/-! ## What happens within the stages -/

section Calm

variable {registry party job} {services : D} {s : JobScope D} {h : List Happening}
  {envs : Set (Environment D)}

theorem calm_hook {α : Type} (call : HookCall) (a : Act α) : (hook call a).Calm :=
  (Account.calm_mark _).bind (Account.calm_act a)

theorem calm_notify (call : HookCall) (n : Notice) : (notify call n).Calm :=
  (Account.calm_mark _).bind (Account.calm_notice n)

theorem calm_restored : (restored job services).Calm := by
  unfold restored
  cases job.scopeData.ambient with
  | none => exact Account.calm_pure _
  | some values =>
    rw [Account.Calm, Traced.history_map]
    exact calm_hook _ _

theorem calm_reported {r : JobRun} : (reported job r).Calm := by
  unfold reported
  cases job.report with
  | none => exact Account.calm_pure _
  | some report => exact Account.calm_notice _

/-- The sink is the executor's hook and the stream. -/
theorem calm_sink : (environment registry party job services).CalmSink := by
  rintro sink ⟨⟩ event
  refine (calm_hook (.immediateEvent event) (job.executor.onImmediateEvent job.info event)).bind ?_
  cases (hook (.immediateEvent event) (job.executor.onImmediateEvent job.info event)).value with
  | ok => exact (Account.calm_streamed event).bind (Account.calm_pure _)
  | error e => exact Account.calm_pure _

/-- Whatever the course of the job, all records made inside the scope are those of safe dispatches.
-/
theorem apart_course {out : Outcome JobRun} (hcourse : Course registry party job services h out s) :
    Apart (Set.range (environment registry party job)) h [] := by
  have hrestored : errors (restored job services).history = [] := calm_restored
  have hvalidated (installed : D) : errors (validated registry job installed).history = [] :=
    Validation.calm_handling
  have htold (r : ValidationResult) : errors (told job r).history = [] := calm_notify _ _
  cases hcourse with
  | notRestored => exact apart_calm hrestored
  | notValidated =>
    exact apart_calm (by rw [errors_append, hrestored, hvalidated, List.append_nil])
  | notTold | rejected =>
    refine (apart_calm hrestored).append (apart_calm ?_)
    rw [errors_append, hvalidated, htold, List.append_nil]
  | executed _ _ _ _ hexecuted =>
    obtain ⟨fs, hends, -⟩ := yields_executed.mp hexecuted
    refine (apart_calm hrestored).append (Apart.append (apart_calm ?_) ?_)
    · rw [errors_append, hvalidated, htold, List.append_nil]
    · exact apart_executeRoot (Set.mem_range_self _) calm_sink hends

/-! ## What follows them -/

theorem apart_raise {token : Token} {stage : JobStage} {f : Failure} {e : Raise} :
    Apart envs (e.records token stage f) (raiseErrors token stage f e) := by
  cases e with
  | failure g => exact .record rfl rfl .none
  | panic p => exact .record rfl rfl (.record rfl rfl .none)

theorem apart_records {α : Type} {token : Token} {stage : JobStage} {out : Outcome α} :
    Apart envs (Outcome.records token stage out) (stageErrors token stage out) := by
  cases out with
  | ok a => exact .none
  | error e => exact apart_raise

theorem apart_reporting {r : JobRun} : Apart envs (reporting job r)
    (stageErrors job.info.token .finalResult (toldFinal job r).value) :=
  apart_records.behind (apart_calm (calm_notify _ _))

theorem apart_disposing : Apart envs (disposing job services)
    (stageErrors job.info.token .disposeScope (disposed job services).value) :=
  apart_records.behind (apart_calm (calm_notify _ _))

theorem apart_closing {r : JobRun} : Apart envs (closing job r)
    ((Outcome.panic? (reported job r).value).toList.map (.reportingPanicked job.info.token)) := by
  have hcompleted : Apart envs
      (if r.result.isSuccess then [.log (.jobCompleted r.events.length)] else []) [] := by
    cases r.result.isSuccess with
    | true => exact apart_calm rfl
    | false => exact .none
  unfold closing
  refine ((?_ : Apart envs _ _).behind (apart_calm calm_reported)).behind hcompleted
  rcases (reported job r).value with (f | p) | _
  · exact .none
  · exact .record rfl rfl .none
  · exact .none

/-- **The stages leave their records one after the other**, and so does the report. -/
theorem apart_whole {r : JobRun} (hwhole : Whole registry party job h r) :
    ∃ ending, Stages registry party job r ending ∧
      Apart (Set.range (environment registry party job)) (h ++ closing job r)
        (ending.errors job.info.token) := by
  have hcreating : Apart (Set.range (environment registry party job)) (created job).history [] :=
    apart_calm (calm_hook _ _)
  cases hwhole with
  | @notCreated e hcreated =>
    refine ⟨_, .notCreated hcreated, ?_⟩
    rw [List.append_assoc, List.append_assoc]
    exact (apart_raise.append (apart_reporting.append apart_closing)).behind hcreating
  | @created services h out s hcreated hcourse =>
    refine ⟨_, .created hcreated (leads_runInScope.mpr hcourse), ?_⟩
    have htold : Apart (Set.range (environment registry party job))
        (if (verdict job out s).notifyFinal then reporting job (verdict job out s) else [])
        ((if (verdict job out s).notifyFinal then some (toldFinal job (verdict job out s)).value
          else none).elim [] (stageErrors job.info.token .finalResult)) := by
      cases (verdict job out s).notifyFinal with
      | true => exact apart_reporting
      | false => exact .none
    have hworked : Apart (Set.range (environment registry party job))
        (h ++ Outcome.records job.info.token .job out)
        (stageErrors job.info.token .job (out.map fun _ => ())) := by
      rw [stageErrors_map]
      exact apart_records.behind (apart_course hcourse)
    have hhistory : (created job).history ++ (h ++ leaving job out s) ++
        closing job (verdict job out s) = (created job).history ++
          ((h ++ Outcome.records job.info.token .job out) ++
            ((if (verdict job out s).notifyFinal then reporting job (verdict job out s) else []) ++
              (disposing job s.services ++ closing job (verdict job out s)))) := by
      simp only [leaving, List.append_assoc]
    rw [hhistory]
    exact (hworked.append (htold.append (apart_disposing.append apart_closing))).behind hcreating

end Calm

/-! ## No failure is silent -/

section Complete

variable {registry party job} {r : JobRun} {ending : Ending}

/-- A job whose command is rejected by its handling validation has done what it had to do, and there
is no final result to tell of. -/
theorem Stages.of_rejected (hstages : Stages registry party job r ending)
    (hrejected : isRejected registry job = true) :
    ending.createScope = .ok () ∧ ending.job = some (.ok ()) ∧ ending.finalResult = none := by
  cases hstages with
  | notCreated hcreated =>
    rw [isRejected_of_none (validation?_of_notCreated hcreated)] at hrejected
    cases hrejected
  | @created services h out s hcreated hscope =>
    obtain ⟨-, -, -, hnotify⟩ := hookCalls_course hcreated (leads_runInScope.mp hscope)
    rw [hrejected] at hnotify
    cases out with
    | error e => cases hnotify
    | ok r => exact ⟨rfl, rfl, if_neg (Bool.not_eq_true _ ▸ hnotify)⟩

/-- **No contained failure is silent.**  The records of errors that a job makes, apart from those
made inside safe dispatches of its chain, are those due to its stages: for each stage that failed
one record, for each that panicked one that names the stage and that one, none for the others, and
one for a callback that panicked.  They are in the order of the stages, and of another kind than
those of safe dispatches, so they can be told apart.  There are none exactly if every stage
returned; a job whose command is rejected has stages that return.

A safe dispatch makes one record of its own if it does not return, and none otherwise; it makes it
after the records of its handlers, which are those of safe dispatches of theirs. -/
theorem failures_recorded :
    (∀ h executed?, Yields (process registry party job) h executed? → ∃ r ending,
      executed? = delivered job r ∧ Stages registry party job r ending ∧
      Apart (Set.range (environment registry party job)) h (ending.errors job.info.token) ∧
      ending.errors job.info.token = (errors h).filter (fun e => !e.isContained) ∧
      (ending.errors job.info.token = [] ↔ ending.Returned) ∧
      (isRejected registry job = true → ending.createScope = .ok () ∧
        ending.job = some (.ok ()) ∧ ending.finalResult = none)) ∧
    ∀ (env : Environment D) n event fs h returned fs',
      Ends (perform env (n + 1) (.dispatchSafe event)) fs h returned fs' → ∃ out mid h₁ h₂,
        Ends (perform env (n + 1) (.dispatch event)) fs h₁ out mid ∧ h = h₁ ++ h₂ ∧
        returned = out.isOk ∧ errors h₂ = dispatchErrors env.token event.type.name out ∧
        (env.CalmSink → Apart {env} h₁ []) := by
  constructor
  · intro h executed? hprocess
    obtain ⟨h₁, r, hwhole, rfl, rfl⟩ := yields_process.mp hprocess
    obtain ⟨ending, hstages, hapart⟩ := apart_whole hwhole
    refine ⟨r, ending, rfl, hstages, hapart, hapart.eq ?_, Ending.errors_eq_nil, hstages.of_rejected⟩
    rintro _ ⟨services, rfl⟩
    exact calm_sink
  · intro env n event fs h returned fs' hends
    obtain ⟨out, mid, h₁, h₂, hdispatch, rfl, herrors, hreturned⟩ := ends_dispatchSafe_records hends
    exact ⟨out, mid, h₁, h₂, hdispatch, rfl, hreturned, herrors, fun hsink =>
      apart_perform (n := n + 1) (q := .dispatch event) (Set.mem_singleton env) hsink hdispatch⟩

end Complete
end Stages

/-! ### A job in which everything goes wrong -/

namespace Calamity

open Nested

/-- Dispatches an event that nobody knows, and fails. -/
def order : ChainProgram CommandResult :=
  .ask (.dispatchSafe (object "nowhere" 0)) fun _ => .done (.error (.failure (.other "no")))

def registry : Registry Unit := .of [descriptor "order" .command (some order)]

/-- The two last hooks of the executor panic, and so does the callback. -/
def job : Job Unit := { Breakdown.job with report := some fun _ => ⟨[], some (.text "report")⟩ }

/-- Each of the failures has its record, and the one of the safe dispatch is apart from the others.
-/
theorem failures_recorded_calamity : ∃ h, Yields (process registry "local" job) h none ∧
    Apart (Set.range (environment registry "local" job)) h [
      .stageFailed .absent .job (.other "no"),
      .stagePanicked .absent .finalResult (.text "final"),
      .stageFailed .absent .finalResult (.other "on_final_result panicked: final"),
      .stagePanicked .absent .disposeScope .other,
      .stageFailed .absent .disposeScope (.other "dispose_scope panicked: unknown panic"),
      .reportingPanicked .absent (.text "report")] := by
  obtain ⟨h, hprocess, herrors⟩ : ∃ h, Yields (process registry "local" job) h none ∧
      (errors h).filter (fun e => !e.isContained) = [
        .stageFailed .absent .job (.other "no"),
        .stagePanicked .absent .finalResult (.text "final"),
        .stageFailed .absent .finalResult (.other "on_final_result panicked: final"),
        .stagePanicked .absent .disposeScope .other,
        .stageFailed .absent .disposeScope (.other "dispose_scope panicked: unknown panic"),
        .reportingPanicked .absent (.text "report")] := ⟨_, rfl, by decide⟩
  obtain ⟨r, ending, -, -, hapart, heq, -⟩ := failures_recorded.1 h none hprocess
  refine ⟨h, hprocess, ?_⟩
  rwa [← herrors, ← heq]

end Calamity
end Job
end CommandEngine
