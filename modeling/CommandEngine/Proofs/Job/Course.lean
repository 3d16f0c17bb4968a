import CommandEngine.Job
import CommandEngine.Proofs.Chain.Ends

/-!
# The course of a job

What a job does is a sequence of stages, and everything but the execution of the root command is
settled by what the application's code ends in.  A job's run is described here stage by stage, once
and with its whole history, and what is to be said of jobs is read off the description.

`Course` is the part inside the scope.  It has one case for each place at which the job may leave
it: ambient values that cannot be restored, a handling validation that does not end, an executor
that panics when it is told of the result, a command that is rejected, and one that is executed.
`yields_run` puts around it what is done whatever the course was, and `yields_process` what follows
on the run.
-/
namespace CommandEngine

open Run

/-! ## What a stage makes of a raise -/

/-- The failure that a raise is to those outside the stage. -/
def Raise.contained (stage : JobStage) : Raise → Failure
  | .failure f => f
  | .panic p => .other (stage.text ++ " panicked: " ++ p.logText)

/-- The record of a panic, where a stage contains it. -/
def Raise.panicRecord (token : Token) (stage : JobStage) : Raise → List Happening
  | .failure _ => []
  | .panic p => [.log (.stagePanicked token stage p)]

/-- The records of a stage that failed or panicked, under the failure that is told outside. -/
def Raise.records (token : Token) (stage : JobStage) (f : Failure) (e : Raise) : List Happening :=
  e.panicRecord token stage ++ [.log (.stageFailed token stage f)]

/-- The records of a stage. -/
def Outcome.records {α : Type} (token : Token) (stage : JobStage) : Outcome α → List Happening
  | .ok _ => []
  | .error e => e.records token stage (e.contained stage)

/-- How a raise leaves the restoring of ambient values: a failure is wrapped, a panic is not. -/
def Raise.ofRestoring : Raise → Raise
  | .failure f => EngineError.ambientRestore f.text
  | .panic p => .panic p

/-- The scope after an attempt to replace its services. -/
def JobScope.install {D : Type} (s : JobScope D) : Outcome D → JobScope D
  | .ok services => { s with services }
  | .error _ => s

namespace Job

section Stages

variable {D : Type} (registry : Registry D) (party : String) (job : Job D)

/-- The services are built. -/
def created : Account (Outcome D) :=
  hook .createScope (job.executor.createScope job.info job.scopeData)

/-- The ambient values are restored, if there are any. -/
def restored (services : D) : Account (Outcome D) :=
  match job.scopeData.ambient with
  | none => pure (.ok services)
  | some values => Except.mapError Raise.ofRestoring <$>
      hook (.restoreAmbientValues values) (job.executor.restoreAmbientValues services values)

/-- The handling validation of the root command. -/
def validated (services : D) : Account (Outcome ValidationResult) :=
  (Validation.handling registry services job.info.token job.info.command).run

/-- The executor is told of the validation. -/
def told (r : ValidationResult) : Account (Outcome Unit) :=
  notify (.validationResult r) (job.executor.onValidationResult job.info r)

/-- The root command is executed, without another validation. -/
def executed (services : D) : Run (Outcome ExecutionOutcome × Context D) :=
  (⟨environment registry party job services, []⟩ : Context D).executeValidated job.info.command

/-- The executor is told of the final result. -/
def toldFinal (r : JobRun) : Account (Outcome Unit) :=
  notify (.finalResult r.result r.events) (job.executor.onFinalResult job.info r.result r.events)

/-- The executor disposes of the services. -/
def disposed (services : D) : Account (Outcome Unit) :=
  notify .disposeScope (job.executor.disposeScope job.info services)

/-- What happens inside the scope, by the place at which it is left. -/
inductive Course (services : D) : List Happening → Outcome JobRun → JobScope D → Prop
  | notRestored {e : Raise} (hrestored : (restored job services).value = .error e) :
    Course services (restored job services).history (.error e) ⟨services, none⟩
  | notValidated {installed : D} {e : Raise}
      (hrestored : (restored job services).value = .ok installed)
      (hvalidated : (validated registry job installed).value = .error e) :
    Course services ((restored job services).history ++ (validated registry job installed).history)
      (.error e) ⟨installed, none⟩
  | notTold {installed : D} {r : ValidationResult} {e : Raise}
      (hrestored : (restored job services).value = .ok installed)
      (hvalidated : (validated registry job installed).value = .ok r)
      (htold : (told job r).value = .error e) :
    Course services ((restored job services).history ++
      ((validated registry job installed).history ++ (told job r).history))
      (.error e) ⟨installed, none⟩
  | rejected {installed : D} {r : ValidationResult}
      (hrestored : (restored job services).value = .ok installed)
      (hvalidated : (validated registry job installed).value = .ok r)
      (htold : (told job r).value = .ok ()) (hfailed : r.success = false) :
    Course services ((restored job services).history ++
      ((validated registry job installed).history ++ (told job r).history))
      (.ok (.rejected r)) ⟨installed, some r⟩
  | executed {installed : D} {r : ValidationResult} {h : List Happening}
      {out : Outcome ExecutionOutcome} {c : Context D}
      (hrestored : (restored job services).value = .ok installed)
      (hvalidated : (validated registry job installed).value = .ok r)
      (htold : (told job r).value = .ok ()) (hsucceeded : r.success = true)
      (hexecuted : Yields (executed registry party job installed) h (out, c)) :
    Course services ((restored job services).history ++
      ((validated registry job installed).history ++ (told job r).history ++ h))
      (out.map fun o => .succeeded o r) ⟨installed, some r⟩

/-- The failure of a job whose services cannot be built. -/
def creationFailure (e : Raise) : Failure :=
  EngineError.scopeCreation (e.contained .createScope).text

/-- How a job went, by what came of it inside its scope. -/
def verdict (out : Outcome JobRun) (s : JobScope D) : JobRun :=
  match out with
  | .ok r => r
  | .error e => .failed (e.contained .job) job.info.token s.validation

/-- Telling the executor of the final result, with what is recorded of it. -/
def reporting (r : JobRun) : List Happening :=
  (toldFinal job r).history ++ Outcome.records job.info.token .finalResult (toldFinal job r).value

/-- Disposing of the services, with what is recorded of it. -/
def disposing (services : D) : List Happening :=
  (disposed job services).history ++
    Outcome.records job.info.token .disposeScope (disposed job services).value

/-- What is done once the scope was left. -/
def leaving (out : Outcome JobRun) (s : JobScope D) : List Happening :=
  Outcome.records job.info.token .job out ++
    ((if (verdict job out s).notifyFinal then reporting job (verdict job out s) else []) ++
      disposing job s.services)

/-- The whole run of a job: its history, and how it went. -/
inductive Whole : List Happening → JobRun → Prop
  | notCreated {e : Raise} (hcreated : (created job).value = .error e) :
    Whole ((created job).history ++ (e.records job.info.token .createScope (creationFailure e) ++
      reporting job (.failed (creationFailure e) job.info.token none)))
      (.failed (creationFailure e) job.info.token none)
  | created {services : D} {h : List Happening} {out : Outcome JobRun} {s : JobScope D}
      (hcreated : (created job).value = .ok services)
      (hcourse : Course registry party job services h out s) :
    Whole ((created job).history ++ (h ++ leaving job out s)) (verdict job out s)

/-- The report on a job that went as `r` says. -/
def summary (r : JobRun) : ExecutedCommand :=
  ⟨job.info.command, job.info.token, r.result, r.validation, r.events⟩

/-- The callback sees the report, if there is one. -/
def reported (r : JobRun) : Account (Outcome Unit) :=
  match job.report with
  | none => pure (.ok ())
  | some report => Account.notice (report (summary job r))

/-- What is done once the job was run. -/
def closing (r : JobRun) : List Happening :=
  (if r.result.isSuccess then [.log (.jobCompleted r.events.length)] else []) ++
    ((reported job r).history ++
      match (reported job r).value with
      | .error (.panic p) => [.log (.reportingPanicked job.info.token p)]
      | _ => [])

/-- What reaches the caller. -/
def delivered (r : JobRun) : Option ExecutedCommand :=
  match (reported job r).value with
  | .error (.panic _) => none
  | _ => some (summary job r)

/-! ## Stage by stage -/

section Scope

variable {registry party job} {α : Type} {services : D} {s s' : JobScope D}
  {h : List Happening}

theorem leads_get_bind {f : JobScope D → InScope D α} {out : Outcome α} :
    Leads (get >>= f).run s h out s' ↔ Leads (f s).run s h out s' :=
  Iff.rfl

theorem leads_restore : Leads (restore job).run s (restored job s.services).history
    ((restored job s.services).value.map fun _ => ()) (s.install (restored job s.services).value) := by
  unfold restore restored
  cases job.scopeData.ambient with
  | none => exact leads_pure_run.mpr ⟨rfl, rfl, rfl⟩
  | some values =>
    refine leads_get_bind.mpr (leads_lift_bind.mpr ⟨[], ?_, by simp⟩)
    dsimp only
    rw [Traced.value_map]
    rcases (hook _ _).value with (f | p) | services'
    · exact leads_throw_run.mpr ⟨rfl, rfl, rfl⟩
    · exact leads_throw_run.mpr ⟨rfl, rfl, rfl⟩
    · exact (leads_of_run rfl).mpr ⟨rfl, rfl, rfl⟩

theorem leads_restore_error {e : Raise} (hrestored : (restored job s.services).value = .error e) :
    Leads (restore job).run s (restored job s.services).history (.error e) s := by
  have hrestore : Leads (restore job).run s _ _ _ := leads_restore
  rwa [hrestored] at hrestore

theorem leads_restore_ok {installed : D}
    (hrestored : (restored job s.services).value = .ok installed) :
    Leads (restore job).run s (restored job s.services).history (.ok ())
      { s with services := installed } := by
  have hrestore : Leads (restore job).run s _ _ _ := leads_restore
  rwa [hrestored] at hrestore

theorem leads_validate_error {e : Raise}
    (hvalidated : (validated registry job s.services).value = .error e) :
    Leads (validate registry job).run s (validated registry job s.services).history (.error e) s := by
  refine leads_get_bind.mpr (leads_lift_bind.mpr ⟨[], ?_, (List.append_nil _).symm⟩)
  exact (leads_outcome_run.mpr ⟨rfl, hvalidated.symm, rfl⟩).bind_error.mpr ⟨rfl, rfl, rfl⟩

/-- What the scope knows of a validation that ended, once the executor was told of it. -/
theorem leads_validate {r : ValidationResult}
    (hvalidated : (validated registry job s.services).value = .ok r) :
    Leads (validate registry job).run s
      ((validated registry job s.services).history ++ (told job r).history)
      ((told job r).value.map fun _ => r)
      (match (told job r).value with
        | .ok () => { s with validation := some r }
        | .error _ => s) := by
  refine leads_get_bind.mpr (leads_lift_bind.mpr ⟨_, ?_, rfl⟩)
  refine (leads_outcome_run.mpr ⟨rfl, hvalidated.symm, rfl⟩).bind_ok.mpr ⟨_, ?_, rfl⟩
  refine leads_lift_bind.mpr ⟨[], ?_, (List.append_nil _).symm⟩
  unfold told
  rcases (notify _ _).value with e | _
  · exact (leads_outcome_run.mpr ⟨rfl, rfl, rfl⟩).bind_error.mpr ⟨rfl, rfl, rfl⟩
  · exact (leads_of_run rfl).mpr ⟨rfl, rfl, rfl⟩

theorem leads_validate_untold {r : ValidationResult} {e : Raise}
    (hvalidated : (validated registry job s.services).value = .ok r)
    (htold : (told job r).value = .error e) :
    Leads (validate registry job).run s
      ((validated registry job s.services).history ++ (told job r).history) (.error e) s := by
  have hvalidate := leads_validate hvalidated
  rwa [htold] at hvalidate

theorem leads_validate_told {r : ValidationResult}
    (hvalidated : (validated registry job s.services).value = .ok r)
    (htold : (told job r).value = .ok ()) :
    Leads (validate registry job).run s
      ((validated registry job s.services).history ++ (told job r).history) (.ok r)
      { s with validation := some r } := by
  have hvalidate := leads_validate hvalidated
  rwa [htold] at hvalidate

theorem leads_succeeding {r : ValidationResult} {inner : Outcome ExecutionOutcome}
    {out : Outcome JobRun} :
    Leads (do
      let outcome ← (ExceptT.mk (pure inner) : InScope D ExecutionOutcome)
      return JobRun.succeeded outcome r : InScope D JobRun).run s h out s' ↔
      h = [] ∧ out = inner.map (fun o => .succeeded o r) ∧ s' = s := by
  cases inner with
  | ok o => exact leads_of_run rfl
  | error e => exact leads_of_run rfl

/-- The root command is executed on a stack of its own. -/
theorem yields_executed {x : Outcome ExecutionOutcome × Context D} :
    Yields (executed registry party job services) h x ↔ ∃ fs,
      Chain.Ends (Chain.executeRoot (environment registry party job services)
        (Chain.perform (environment registry party job services) Chain.nestingLimit)
        Chain.nestingLimit job.info.command true).run [] h x.1 fs ∧
      x.2 = ⟨environment registry party job services, fs⟩ := by
  unfold executed Context.executeValidated
  rw [yields_bind]
  constructor
  · rintro ⟨⟨out, fs⟩, h₁, h₂, hends, hpure, rfl⟩
    obtain ⟨rfl, rfl⟩ := yields_pure.mp hpure
    exact ⟨fs, by rwa [List.append_nil], rfl⟩
  · rintro ⟨fs, hends, hcontext⟩
    exact ⟨(x.1, fs), h, [], hends, yields_pure.mpr ⟨rfl, Prod.ext rfl hcontext⟩,
      (List.append_nil h).symm⟩

/-- All that telling the executor can come to is a panic. -/
theorem told_eq (r : ValidationResult) : (told job r).value =
    match (job.executor.onValidationResult job.info r).panic with
    | some p => .error (.panic p)
    | none => .ok () := rfl

/-- What is done inside the scope takes one of the courses: it stops where a stage raises, and the
stages before that one have left their histories. -/
theorem course_of_leads {out : Outcome JobRun}
    (hleads : Leads (runInScope registry party job).run ⟨services, none⟩ h out s') :
    Course registry party job services h out s' := by
  unfold runInScope at hleads
  cases hrestored : (restored job services).value with
  | error e =>
    have hrestore := leads_restore_error (s := ⟨services, none⟩) hrestored
    obtain ⟨rfl, rfl, rfl⟩ := hrestore.bind_error.mp hleads
    exact .notRestored hrestored
  | ok installed =>
    have hrestore := leads_restore_ok (s := ⟨services, none⟩) hrestored
    obtain ⟨h₁, hvalidating, rfl⟩ := hrestore.bind_ok.mp hleads
    cases hvalidated : (validated registry job installed).value with
    | error e =>
      have hvalidate := leads_validate_error (s := ⟨installed, none⟩) hvalidated
      obtain ⟨rfl, rfl, rfl⟩ := hvalidate.bind_error.mp hvalidating
      exact .notValidated hrestored hvalidated
    | ok r =>
      cases htold : (told job r).value with
      | error e =>
        have hvalidate := leads_validate_untold (s := ⟨installed, none⟩) hvalidated htold
        obtain ⟨rfl, rfl, rfl⟩ := hvalidate.bind_error.mp hvalidating
        exact .notTold hrestored hvalidated htold
      | ok =>
        have hvalidate := leads_validate_told (s := ⟨installed, none⟩) hvalidated htold
        obtain ⟨h₂, hlast, rfl⟩ := hvalidate.bind_ok.mp hvalidating
        -- the executor has been told, and the result of the validation decides
        split at hlast
        · obtain ⟨⟨inner, c⟩, h₃, h₄, hexecuted, hlast', rfl⟩ :=
            leads_liftRun_bind.mp (leads_get_bind.mp hlast)
          obtain ⟨rfl, rfl, rfl⟩ := leads_succeeding.mp hlast'
          rw [List.append_nil]
          exact .executed hrestored hvalidated htold ‹_› hexecuted
        · obtain ⟨rfl, rfl, rfl⟩ := leads_pure_run.mp hlast
          rw [List.append_nil]
          exact .rejected hrestored hvalidated htold (Bool.eq_false_iff.mpr ‹_›)

/-- Each of the courses is one that the stages take. -/
theorem Course.leads {out : Outcome JobRun} (hcourse : Course registry party job services h out s') :
    Leads (runInScope registry party job).run ⟨services, none⟩ h out s' := by
  unfold runInScope
  cases hcourse with
  | notRestored hrestored =>
    have hrestore := leads_restore_error (s := ⟨services, none⟩) hrestored
    exact hrestore.bind_error.mpr ⟨rfl, rfl, rfl⟩
  | notValidated hrestored hvalidated =>
    have hrestore := leads_restore_ok (s := ⟨services, none⟩) hrestored
    have hvalidate := leads_validate_error (s := ⟨_, none⟩) hvalidated
    exact hrestore.bind_ok.mpr ⟨_, hvalidate.bind_error.mpr ⟨rfl, rfl, rfl⟩, rfl⟩
  | notTold hrestored hvalidated htold =>
    have hrestore := leads_restore_ok (s := ⟨services, none⟩) hrestored
    have hvalidate := leads_validate_untold (s := ⟨_, none⟩) hvalidated htold
    exact hrestore.bind_ok.mpr ⟨_, hvalidate.bind_error.mpr ⟨rfl, rfl, rfl⟩, rfl⟩
  | rejected hrestored hvalidated htold hfailed =>
    have hrestore := leads_restore_ok (s := ⟨services, none⟩) hrestored
    have hvalidate := leads_validate_told (s := ⟨_, none⟩) hvalidated htold
    refine hrestore.bind_ok.mpr ⟨_, hvalidate.bind_ok.mpr ⟨[], ?_, rfl⟩, by rw [List.append_nil]⟩
    rw [hfailed]
    exact leads_pure_run.mpr ⟨rfl, rfl, rfl⟩
  | executed hrestored hvalidated htold hsucceeded hexecuted =>
    have hrestore := leads_restore_ok (s := ⟨services, none⟩) hrestored
    have hvalidate := leads_validate_told (s := ⟨_, none⟩) hvalidated htold
    refine hrestore.bind_ok.mpr ⟨_, hvalidate.bind_ok.mpr ⟨_, ?_, rfl⟩, rfl⟩
    rw [hsucceeded]
    refine leads_get_bind.mpr (leads_liftRun_bind.mpr ⟨_, _, [], hexecuted, ?_, ?_⟩)
    · exact leads_succeeding.mpr ⟨rfl, rfl, rfl⟩
    · rw [List.append_nil]

theorem leads_runInScope {out : Outcome JobRun} :
    Leads (runInScope registry party job).run ⟨services, none⟩ h out s' ↔
      Course registry party job services h out s' :=
  ⟨course_of_leads, Course.leads⟩

/-! ## Around the scope -/

theorem yields_guarded_ok {token : Token} {stage : JobStage} {x : Run (Outcome α)} {a : α}
    (hx : Yields x h (.ok a)) : Yields (guarded token stage x) h (.ok a) :=
  hx.bind.mpr ⟨[], yields_pure.mpr ⟨rfl, rfl⟩, (List.append_nil h).symm⟩

theorem yields_guarded_error {token : Token} {stage : JobStage} {x : Run (Outcome α)} {e : Raise}
    (hx : Yields x h (.error e)) : Yields (guarded token stage x)
      (h ++ e.panicRecord token stage) (.error (e.contained stage)) := by
  refine hx.bind.mpr ⟨_, ?_, rfl⟩
  cases e with
  | failure f => exact yields_pure.mpr ⟨rfl, rfl⟩
  | panic p => exact yields_lift_bind.mpr ⟨[], yields_pure.mpr ⟨rfl, rfl⟩, rfl⟩

/-- A stage in which the executor is only told of something. -/
theorem yields_telling {token : Token} {stage : JobStage} {a : Account (Outcome Unit)} :
    Yields (do
      match ← guarded token stage (liftM a) with
      | .ok () => return ()
      | .error f => Account.log (.stageFailed token stage f) : Run Unit)
      (a.history ++ Outcome.records token stage a.value) () := by
  have ha : Yields (liftM a : Run (Outcome Unit)) a.history a.value := yields_lift.mpr ⟨rfl, rfl⟩
  cases hvalue : a.value with
  | ok =>
    rw [hvalue] at ha
    exact (yields_guarded_ok ha).bind.mpr ⟨[], yields_pure.mpr ⟨rfl, rfl⟩, rfl⟩
  | error e =>
    rw [hvalue] at ha
    refine (yields_guarded_error ha).bind.mpr ⟨_, yields_lift.mpr ⟨rfl, rfl⟩, ?_⟩
    rw [List.append_assoc]
    rfl

theorem yields_reportFinal {r : JobRun} : Yields (reportFinal job r) (reporting job r) () :=
  yields_telling

theorem yields_dispose : Yields (dispose job services) (disposing job services) () :=
  yields_telling

theorem yields_lastly (job : Job D) (services : D) (r : JobRun) : Yields (do
      if r.notifyFinal then reportFinal job r
      dispose job services
      return r : Run JobRun)
    ((if r.notifyFinal then reporting job r else []) ++ disposing job services) r := by
  have hdispose : Yields (do dispose job services; return r : Run JobRun)
      (disposing job services) r :=
    yields_dispose.bind.mpr ⟨[], yields_pure.mpr ⟨rfl, rfl⟩, (List.append_nil _).symm⟩
  split
  · exact yields_reportFinal.bind.mpr ⟨_, hdispose, rfl⟩
  · exact hdispose

/-- What is done when there is no scope. -/
theorem yields_notCreated {f : Failure} {r : JobRun} : Yields (do
      Account.log (.stageFailed job.info.token .createScope f)
      reportFinal job (.failed f job.info.token none)
      return .failed f job.info.token none : Run JobRun) h r ↔
    h = .log (.stageFailed job.info.token .createScope f) ::
      reporting job (.failed f job.info.token none) ∧ r = .failed f job.info.token none := by
  refine yields_of_run (yields_lift_bind.mpr ⟨_, ?_, rfl⟩)
  exact yields_reportFinal.bind.mpr ⟨[], yields_pure.mpr ⟨rfl, rfl⟩, (List.append_nil _).symm⟩

/-- What is done once the scope was left with `out`. -/
theorem yields_leaving {out : Outcome JobRun} {r : JobRun} : Yields (do
      let executed ← guarded job.info.token .job (pure out)
      let run ← match executed with
        | .ok run => pure run
        | .error f => do
          Account.log (.stageFailed job.info.token .job f)
          pure (JobRun.failed f job.info.token s.validation)
      if run.notifyFinal then
        reportFinal job run
      dispose job s.services
      return run : Run JobRun) h r ↔
    h = leaving job out s ∧ r = verdict job out s := by
  have hout : Yields (pure out) [] out := yields_pure.mpr ⟨rfl, rfl⟩
  have hlastly := yields_lastly job s.services (verdict job out s)
  cases out with
  | ok r₀ => exact yields_of_run ((yields_guarded_ok hout).bind.mpr ⟨_, hlastly, rfl⟩)
  | error e =>
    have hlogged := yields_lift_bind (a := Account.log (.stageFailed job.info.token .job
      (e.contained .job))) (f := fun _ => _) |>.mpr ⟨_, hlastly, rfl⟩
    exact yields_of_run ((yields_guarded_error hout).bind.mpr ⟨_, hlogged, List.append_assoc ..⟩)

/-- **A job's run**, with its whole history. -/
theorem yields_run {r : JobRun} :
    Yields (run registry party job) h r ↔ Whole registry party job h r := by
  unfold run
  dsimp only
  have hcreation : Yields (liftM (hook .createScope
      (job.executor.createScope job.info job.scopeData)) : Run (Outcome D))
      (created job).history (created job).value := yields_lift.mpr ⟨rfl, rfl⟩
  cases hcreated : (created job).value with
  | error e =>
    rw [hcreated] at hcreation
    rw [(yields_guarded_error hcreation).bind]
    have hhistory : (created job).history ++ (e.records job.info.token .createScope
        (creationFailure e) ++ reporting job (.failed (creationFailure e) job.info.token none)) =
        (created job).history ++ e.panicRecord job.info.token .createScope ++
          .log (.stageFailed job.info.token .createScope (creationFailure e)) ::
            reporting job (.failed (creationFailure e) job.info.token none) := by
      simp [Raise.records]
    constructor
    · rintro ⟨h₁, hrun, rfl⟩
      obtain ⟨rfl, rfl⟩ := yields_notCreated.mp hrun
      exact hhistory ▸ Whole.notCreated hcreated
    · intro hwhole
      cases hwhole with
      | notCreated hcreated' =>
        cases hcreated.symm.trans hcreated'
        exact ⟨_, yields_notCreated.mpr ⟨rfl, rfl⟩, hhistory⟩
      | created hcreated' hcourse => cases hcreated.symm.trans hcreated'
  | ok services =>
    rw [hcreated] at hcreation
    rw [(yields_guarded_ok hcreation).bind]
    constructor
    · rintro ⟨h₁, hrun, rfl⟩
      obtain ⟨⟨out, s⟩, h₂, h₃, hcourse, hleaving, rfl⟩ := yields_bind.mp hrun
      obtain ⟨rfl, rfl⟩ := yields_leaving.mp hleaving
      exact .created hcreated (leads_runInScope.mp hcourse)
    · intro hwhole
      cases hwhole with
      | notCreated hcreated' => cases hcreated.symm.trans hcreated'
      | created hcreated' hcourse =>
        cases hcreated.symm.trans hcreated'
        exact ⟨_, yields_bind.mpr ⟨_, _, _, leads_runInScope.mpr hcourse,
          yields_leaving.mpr ⟨rfl, rfl⟩, rfl⟩, rfl⟩

/-- The report on a run. -/
theorem yields_reporting {r : JobRun} {executed? : Option ExecutedCommand} : Yields (do
      if r.result.isSuccess then
        Account.log (.jobCompleted r.events.length)
      match job.report with
      | none => return some (summary job r)
      | some report =>
        match ← (liftM (Account.notice (report (summary job r))) : Run (Outcome Unit)) with
        | .error (.panic p) =>
          Account.log (.reportingPanicked job.info.token p)
          return none
        | _ => return some (summary job r) : Run (Option ExecutedCommand)) h executed? ↔
    h = closing job r ∧ executed? = delivered job r := by
  have hreported : Yields (match job.report with
      | none => return some (summary job r)
      | some report => do
        match ← (liftM (Account.notice (report (summary job r))) : Run (Outcome Unit)) with
        | .error (.panic p) =>
          Account.log (.reportingPanicked job.info.token p)
          return none
        | _ => return some (summary job r) : Run (Option ExecutedCommand))
      ((reported job r).history ++ match (reported job r).value with
        | .error (.panic p) => [.log (.reportingPanicked job.info.token p)]
        | _ => []) (delivered job r) := by
    unfold delivered reported
    cases job.report with
    | none => exact yields_pure.mpr ⟨rfl, rfl⟩
    | some report =>
      refine yields_lift_bind.mpr ⟨_, ?_, rfl⟩
      rcases (Account.notice (report (summary job r))).value with (f | p) | _
      · exact yields_pure.mpr ⟨rfl, rfl⟩
      · exact yields_lift_bind.mpr ⟨[], yields_pure.mpr ⟨rfl, rfl⟩, rfl⟩
      · exact yields_pure.mpr ⟨rfl, rfl⟩
  unfold closing
  cases r.result.isSuccess with
  | true => exact yields_of_run (yields_lift_bind.mpr ⟨_, hreported, rfl⟩)
  | false => exact yields_of_run hreported

/-- **A job**, with its whole history: its run, and the report on it. -/
theorem yields_process {executed? : Option ExecutedCommand} :
    Yields (process registry party job) h executed? ↔ ∃ h₁ r,
      Whole registry party job h₁ r ∧ h = h₁ ++ closing job r ∧ executed? = delivered job r := by
  unfold process
  rw [yields_bind]
  constructor
  · rintro ⟨r, h₁, h₂, hrun, hreporting, rfl⟩
    obtain ⟨rfl, rfl⟩ := yields_reporting.mp hreporting
    exact ⟨h₁, r, yields_run.mp hrun, rfl, rfl⟩
  · rintro ⟨h₁, r, hwhole, rfl, rfl⟩
    exact ⟨r, h₁, _, yields_run.mpr hwhole, yields_reporting.mpr ⟨rfl, rfl⟩, rfl⟩

/-! ## The marks of the stages

A hook leaves the mark of its call, and what is recorded of it leaves none. -/

theorem marks_act (a : Act α) : Chain.marks (Account.act a).history = [] :=
  List.eq_nil_iff_forall_not_mem.mpr fun m hm =>
    Account.mark_not_mem_act a m (Chain.mem_marks.mp hm)

theorem marks_notice (n : Notice) : Chain.marks (Account.notice n).history = [] := by
  refine List.eq_nil_iff_forall_not_mem.mpr fun m hm => ?_
  obtain ⟨_, -, hsign⟩ := List.mem_map.mp (Chain.mem_marks.mp hm)
  cases hsign

theorem marks_hook (call : HookCall) (a : Act α) :
    Chain.marks (hook call a).history = [.hook call] :=
  congrArg (Mark.hook call :: ·) (marks_act a)

theorem marks_notify (call : HookCall) (n : Notice) :
    Chain.marks (notify call n).history = [.hook call] :=
  congrArg (Mark.hook call :: ·) (marks_notice n)

theorem marks_raise (e : Raise) (token : Token) (stage : JobStage) (f : Failure) :
    Chain.marks (e.records token stage f) = [] := by
  cases e <;> rfl

theorem marks_records (token : Token) (stage : JobStage) (out : Outcome α) :
    Chain.marks (Outcome.records token stage out) = [] := by
  cases out with
  | ok => rfl
  | error e => exact marks_raise e token stage _

theorem marks_restored : Chain.marks (restored job services).history =
    job.scopeData.ambient.toList.map fun values => .hook (.restoreAmbientValues values) := by
  unfold restored
  cases job.scopeData.ambient with
  | none => rfl
  | some values =>
    rw [Traced.history_map, marks_hook]
    rfl

theorem marks_reporting {r : JobRun} :
    Chain.marks (reporting job r) = [.hook (.finalResult r.result r.events)] := by
  rw [reporting, Chain.marks_append, marks_records, List.append_nil]
  exact marks_notify _ _

theorem marks_leaving {out : Outcome JobRun} : Chain.marks (leaving job out s) =
    (if (verdict job out s).notifyFinal then
      [.hook (.finalResult (verdict job out s).result (verdict job out s).events)] else []) ++
      [.hook .disposeScope] := by
  have hdisposing : Chain.marks (disposing job s.services) = [.hook .disposeScope] := by
    rw [disposing, Chain.marks_append, marks_records, List.append_nil]
    exact marks_notify _ _
  rw [leaving, Chain.marks_append, Chain.marks_append, marks_records, hdisposing]
  split
  · rw [marks_reporting]
    rfl
  · rfl

/-- The report is made without the hooks. -/
theorem marks_closing {r : JobRun} : Chain.marks (closing job r) = [] := by
  have hreported : Chain.marks (reported job r).history = [] := by
    unfold reported
    cases job.report with
    | none => rfl
    | some report => exact marks_notice _
  rw [closing, Chain.marks_append, Chain.marks_append, hreported, List.nil_append]
  split <;> split <;> rfl

/-! ## Jobs that end

Everything but the execution of the command ends, so it decides whether the job does. -/

variable (registry job) in
/-- The job gets so far that the root command is executed, on these services. -/
inductive Reached (installed : D) : Prop
  | intro {services : D} {r : ValidationResult} (hcreated : (created job).value = .ok services)
      (hrestored : (restored job services).value = .ok installed)
      (hvalidated : (validated registry job installed).value = .ok r)
      (htold : (told job r).value = .ok ()) (hsucceeded : r.success = true)

theorem exists_course (hcreated : (created job).value = .ok services)
    (hchain : ∀ installed, Reached registry job installed →
      ∃ h x, Yields (executed registry party job installed) h x) :
    ∃ h out s, Course registry party job services h out s := by
  cases hrestored : (restored job services).value with
  | error e => exact ⟨_, _, _, .notRestored hrestored⟩
  | ok installed =>
    cases hvalidated : (validated registry job installed).value with
    | error e => exact ⟨_, _, _, .notValidated hrestored hvalidated⟩
    | ok r =>
      cases htold : (told job r).value with
      | error e => exact ⟨_, _, _, .notTold hrestored hvalidated htold⟩
      | ok =>
        cases hsuccess : r.success with
        | false => exact ⟨_, _, _, .rejected hrestored hvalidated htold hsuccess⟩
        | true =>
          obtain ⟨h, ⟨out, c⟩, hexecuted⟩ :=
            hchain installed ⟨hcreated, hrestored, hvalidated, htold, hsuccess⟩
          exact ⟨_, _, _, .executed hrestored hvalidated htold hsuccess hexecuted⟩

theorem exists_whole (hchain : ∀ installed, Reached registry job installed →
      ∃ h x, Yields (executed registry party job installed) h x) :
    ∃ h r, Whole registry party job h r := by
  cases hcreated : (created job).value with
  | error e => exact ⟨_, _, .notCreated hcreated⟩
  | ok services =>
    obtain ⟨h, out, s, hcourse⟩ := exists_course hcreated hchain
    exact ⟨_, _, .created hcreated hcourse⟩

end Scope
end Stages
end Job
end CommandEngine
