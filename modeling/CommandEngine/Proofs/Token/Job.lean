import CommandEngine.Job
import CommandEngine.Proofs.Token.Chain

/-!
# Jobs with two tokens

A job hands its token to its hooks, to the validation of its root command, to the chain that
executes it, to its records and to what its caller gets.  Which stages are run, and what is done
in them, depends on the outcomes of the stages before, and never on the token.  So the stages of a
job and of the same job with another token are run in step: the two scopes have the same services
and validations that are alike at every moment, and the reports are alike.

The texts of failures are where this could go wrong, because a stage may wrap the text of a
failure and a contained panic becomes one.  No text of a failure shows a key
(`Failure.Alike.text`), so what is wrapped is the same text.
-/
namespace CommandEngine

open Run

/-- The same job with another token. -/
def Job.withToken {D : Type} (job : Job D) (token : Token) : Job D :=
  { job with info := { job.info with token } }

namespace Job
variable {D : Type} (job : Job D) (token : Token)

@[simp] theorem withToken_info : (job.withToken token).info = ⟨job.info.command, token⟩ := rfl

@[simp] theorem withToken_scopeData : (job.withToken token).scopeData = job.scopeData := rfl

@[simp] theorem withToken_executor : (job.withToken token).executor = job.executor := rfl

@[simp] theorem withToken_report : (job.withToken token).report = job.report := rfl

end Job

/-- The services that a job may have: those that are built for it, and those that they are replaced
with when its ambient values are restored. -/
inductive Job.Supplies {D : Type} (job : Job D) : D → Prop
  | created {services : D}
    (hcreated : (job.executor.createScope job.info job.scopeData).outcome = .ok services) :
    Supplies job services
  | restored {services installed : D} {values : AmbientValues} (hsupplied : Supplies job services)
    (hambient : job.scopeData.ambient = some values)
    (hrestored : (job.executor.restoreAmbientValues services values).outcome = .ok installed) :
    Supplies job installed

section Alike
variable {D : Type} (t t' : Token)

/-- Two ways for a job to go that differ in keys at most. -/
structure JobRun.Alike (r r' : JobRun) : Prop where
  result : r.result.Alike t t' r'.result
  validation : Option.Rel (ValidationResult.Alike t t') r.validation r'.validation
  events : r'.events = r.events
  notifyFinal : r'.notifyFinal = r.notifyFinal

/-- Scopes of a job with the same services, in which validations were told that are alike. -/
structure JobScope.Alike (job : Job D) (s s' : JobScope D) : Prop where
  services : s'.services = s.services
  supplied : job.Supplies s.services
  validation : Option.Rel (ValidationResult.Alike t t') s.validation s'.validation

/-- No hook looks at the token of a job for the command, nor at a key in what it is told. -/
structure Executor.Blind (executor : Executor D) (command : Object) : Prop where
  createScope : ∀ data,
    executor.createScope ⟨command, t'⟩ data = executor.createScope ⟨command, t⟩ data
  onValidationResult : ∀ r r', r.Alike t t' r' →
    executor.onValidationResult ⟨command, t'⟩ r' = executor.onValidationResult ⟨command, t⟩ r
  onImmediateEvent : ∀ event,
    executor.onImmediateEvent ⟨command, t'⟩ event = executor.onImmediateEvent ⟨command, t⟩ event
  onFinalResult : ∀ r r' events, r.Alike t t' r' →
    executor.onFinalResult ⟨command, t'⟩ r' events = executor.onFinalResult ⟨command, t⟩ r events
  disposeScope : ∀ services,
    executor.disposeScope ⟨command, t'⟩ services = executor.disposeScope ⟨command, t⟩ services

/-- The application's part in a job looks neither at the token nor at keys. -/
structure Job.Blind (registry : Registry D) (job : Job D) : Prop where
  registry : ∀ services, job.Supplies services → registry.Blind t t' services
  executor : job.executor.Blind t t' job.info.command
  report : ∀ report ∈ job.report, ∀ x x', x.Alike t t' x' → report x' = report x

end Alike

/-! ## Contexts -/

section Contexts
variable {D : Type} {t t' : Token}

/-- Contexts with the one token and the other, and the same frames. -/
structure Context.Alike (t t' : Token) (c c' : Context D) : Prop where
  env : c.env.Alike t t' c'.env
  frames : c'.frames = c.frames

/-- The environment stays, and the frames are those that a computation on the frames leaves. -/
theorem Context.matches_run {α : Type} {c c' : Context D} (hc : c.Alike t t' c')
    {x y : OnStack (Outcome α)} (hxy : Parallel t t' Eq (OutcomeAlike t t' Eq) x y) :
    Matches t t' (fun p q => OutcomeAlike t t' Eq p.1 q.1 ∧ p.2.Alike t t' q.2)
      (do let (outcome, frames) ← x.run c.frames; return (outcome, { c with frames }))
      (do let (outcome, frames) ← y.run c'.frames; return (outcome, { c' with frames })) := by
  refine (hxy _ _ hc.frames.symm).bind ?_
  rintro ⟨o, frames⟩ ⟨o', frames'⟩ ⟨ho, rfl⟩
  exact matches_pure ⟨ho, hc.env, rfl⟩

variable {c c' : Context D} (hc : c.Alike t t' c')
  (hblind : c.env.registry.Blind t t' c.env.services)
include hc hblind

/-- **Programs in contexts with two tokens.** -/
theorem Context.matches_program {α : Type} {p : ChainProgram α} (hp : p.Blind t t') :
    Matches t t' (fun p q => OutcomeAlike t t' Eq p.1 q.1 ∧ p.2.Alike t t' q.2)
      (c.run p) (c'.run p) :=
  Context.matches_run hc (Chain.twin_runProgram (Chain.parallel_perform hc.env hblind _) hp)

theorem Context.matches_executeValidated (command : Object) :
    Matches t t' (fun p q => OutcomeAlike t t' Eq p.1 q.1 ∧ p.2.Alike t t' q.2)
      (c.executeValidated command) (c'.executeValidated command) :=
  Context.matches_run hc (Chain.twin_executeRoot hc.env (Chain.parallel_perform hc.env hblind _)
    hblind _ command true)

end Contexts

namespace Job

/-! ## Hooks -/

section Hooks
variable {t t' : Token} {α : Type} {call call' : HookCall}

theorem matches_hook (hcall : call.Alike t t' call') (a : Act α) :
    Account.Matches t t' (OutcomeAlike t t' fun b b' => b' = b ∧ a.outcome = .ok b) (hook call a)
      (hook call' a) := by
  refine (Account.matches_mark (.hook hcall)).bind fun _ _ _ => ?_
  refine ⟨(Account.matches_act a).history, ?_⟩
  show OutcomeAlike t t' _ a.outcome a.outcome
  cases a.outcome with
  | ok b => exact .ok ⟨rfl, rfl⟩
  | error e => exact .error (Raise.alike_refl e)

theorem matches_notify (hcall : call.Alike t t' call') (n : Notice) :
    Account.Matches t t' (OutcomeAlike t t' Eq) (notify call n) (notify call' n) := by
  refine (Account.matches_mark (.hook hcall)).bind fun _ _ _ => ?_
  exact (Account.matches_notice n).mono fun o _ ho => ho ▸ outcomeAlike_refl o

/-- A stage that contains what goes wrong in it. -/
theorem matches_guarded {V : α → α → Prop} {x y : Run (Outcome α)} (stage : JobStage)
    (hxy : Matches t t' (OutcomeAlike t t' V) x y) :
    Matches t t' (ExceptAlike (Failure.Alike t t') V) (guarded t stage x) (guarded t' stage y) := by
  refine hxy.bind fun o o' ho => ?_
  cases ho with
  | ok ha => exact matches_pure (.ok ha)
  | error he =>
    cases he with
    | failure hf => exact matches_pure (.error hf)
    | panic p =>
      refine (matches_lift (Account.matches_log ?_)).bind fun _ _ _ =>
        matches_pure (.error (.same _))
      exact ⟨rfl, rfl, rfl, .inr ⟨rfl, rfl⟩⟩

theorem matches_stageFailed (stage : JobStage) {f f' : Failure} (hf : f.Alike t t' f') :
    Matches t t' Eq (liftM (Account.log (.stageFailed t stage f)) : Run Unit)
      (liftM (Account.log (.stageFailed t' stage f'))) := by
  refine matches_lift (Account.matches_log ⟨rfl, rfl, ?_, .inr ⟨rfl, rfl⟩⟩)
  simp only [LogEvent.fields, hf.report]

end Hooks

/-- What is done only sometimes, before something else. -/
theorem matches_when {V : α → α → Prop} {c : Prop} [Decidable c] {x y : Run Unit}
    {f g : Unit → Run α} (hxy : Matches t t' Eq x y) (hfg : Matches t t' V (f ()) (g ())) :
    Matches t t' V (if c then x >>= f else f ()) (if c then y >>= g else g ()) :=
  related_ite (hxy.bind fun _ _ _ => hfg) hfg

/-! ## Stages -/

section Stages
variable {D : Type} {registry : Registry D} {party : String} {job : Job D} {t' : Token}

section Executor
variable (hexecutor : job.executor.Blind job.info.token t' job.info.command)
include hexecutor

theorem alike_sink : job.sink.Alike job.info.token t' (job.withToken t').sink := by
  intro event
  show Account.Matches _ _ _ (_ >>= _) (hook _ (job.executor.onImmediateEvent ⟨_, t'⟩ event) >>= _)
  rw [hexecutor.onImmediateEvent]
  refine (matches_hook (.immediateEvent event) _).bind fun o o' ho => ?_
  cases ho with
  | ok _ => exact ⟨.cons (.streamed event) .nil, .ok rfl⟩
  | error he => exact Account.matches_pure (.error he)

theorem alike_environment (services : D) :
    (environment registry party job services).Alike job.info.token t'
      (environment registry party (job.withToken t') services) :=
  .mk (.some (alike_sink hexecutor))

omit hexecutor in
theorem parallel_restore : Parallel job.info.token t' (JobScope.Alike job.info.token t' job)
    (OutcomeAlike job.info.token t' Eq) (restore job).run (restore (job.withToken t')).run := by
  unfold restore
  rw [withToken_scopeData, withToken_executor]
  cases hambient : job.scopeData.ambient with
  | none => exact parallel_pure_run rfl
  | some values =>
    refine parallel_bind_run (parallel_state_run parallel_get) fun s s' hs => ?_
    rw [hs.services]
    refine parallel_bind_run (parallel_lift_run (matches_hook (.restoreAmbientValues values) _)) ?_
    intro o o' ho
    cases ho with
    | ok ha =>
      obtain ⟨rfl, hrestored⟩ := ha
      refine parallel_state_run (parallel_modify fun _ _ hnow => ?_)
      exact ⟨rfl, .restored hs.supplied hambient hrestored, hnow.validation⟩
    | error he =>
      cases he with
      | failure hf =>
        dsimp only
        rw [hf.text]
        exact parallel_throw_run (Raise.alike_refl _)
      | panic p => exact parallel_throw_run (.panic p)

theorem parallel_validate
    (hblind : ∀ services, job.Supplies services → registry.Blind job.info.token t' services) :
    Parallel job.info.token t' (JobScope.Alike job.info.token t' job)
      (OutcomeAlike job.info.token t' (ValidationResult.Alike job.info.token t'))
      (validate registry job).run (validate registry (job.withToken t')).run := by
  refine parallel_bind_run (parallel_state_run parallel_get) fun s s' hs => ?_
  rw [hs.services]
  have hhandling := Validation.matches_handling (hblind _ hs.supplied) job.info.command
  refine parallel_bind_run (parallel_lift_run hhandling) fun o o' ho => ?_
  refine parallel_bind_run (parallel_outcome_run ho) fun r r' hr => ?_
  rw [withToken_executor, withToken_info, hexecutor.onValidationResult _ _ hr]
  refine parallel_bind_run (parallel_lift_run (matches_notify (.validationResult hr) _)) ?_
  intro told told' htold
  refine parallel_bind_run (parallel_outcome_run htold) fun _ _ _ => ?_
  refine parallel_bind_run (parallel_state_run (parallel_modify fun s s' hs => ?_)) fun _ _ _ =>
    parallel_pure_run hr
  exact ⟨hs.services, hs.supplied, .some hr⟩

theorem matches_reportFinal {run run' : JobRun} (hrun : run.Alike job.info.token t' run') :
    Matches job.info.token t' Eq (reportFinal job run) (reportFinal (job.withToken t') run') := by
  unfold reportFinal
  rw [withToken_executor, withToken_info, hrun.events, hexecutor.onFinalResult _ _ _ hrun.result]
  have hnotify := matches_notify (.finalResult hrun.result run.events)
    (job.executor.onFinalResult job.info run.result run.events)
  refine (matches_guarded .finalResult (matches_lift hnotify)).bind fun o o' ho => ?_
  cases ho with
  | ok _ => exact matches_pure rfl
  | error hf => exact matches_stageFailed .finalResult hf

theorem matches_dispose (services : D) :
    Matches job.info.token t' Eq (dispose job services) (dispose (job.withToken t') services) := by
  unfold dispose
  rw [withToken_executor, withToken_info, hexecutor.disposeScope]
  have hnotify := @matches_notify job.info.token t' _ _ .disposeScope
    (job.executor.disposeScope job.info services)
  refine (matches_guarded .disposeScope (matches_lift hnotify)).bind fun o o' ho => ?_
  cases ho with
  | ok _ => exact matches_pure rfl
  | error hf => exact matches_stageFailed .disposeScope hf

/-- What is done when the scope is left, whatever was done in it. -/
theorem matches_leave {s s' : JobScope D} (hs : s.Alike job.info.token t' job s')
    {run run' : JobRun} (hrun : run.Alike job.info.token t' run') :
    Matches job.info.token t' (JobRun.Alike job.info.token t')
      (do
        if run.notifyFinal then
          reportFinal job run
        dispose job s.services
        return run)
      (do
        if run'.notifyFinal then
          reportFinal (job.withToken t') run'
        dispose (job.withToken t') s'.services
        return run') := by
  rw [hrun.notifyFinal, hs.services]
  refine matches_when (matches_reportFinal hexecutor hrun) ?_
  exact (matches_dispose hexecutor _).bind fun _ _ _ => matches_pure hrun

end Executor

/-! ## Whole jobs -/

theorem alike_failed {t t' : Token} {f f' : Failure} {v v' : Option ValidationResult}
    (hf : f.Alike t t' f') (hv : Option.Rel (ValidationResult.Alike t t') v v') :
    (JobRun.failed f t v).Alike t t' (JobRun.failed f' t' v') :=
  ⟨.error (SanitizedError.alike_ofFailure hf), hv, rfl, rfl⟩

variable (hblind : job.Blind job.info.token t' registry)
include hblind

theorem parallel_runInScope : Parallel job.info.token t' (JobScope.Alike job.info.token t' job)
    (OutcomeAlike job.info.token t' (JobRun.Alike job.info.token t'))
    (runInScope registry party job).run (runInScope registry party (job.withToken t')).run := by
  refine parallel_bind_run parallel_restore fun _ _ _ => ?_
  refine parallel_bind_run (parallel_validate hblind.executor hblind.registry) fun r r' hr => ?_
  rw [hr.success]
  by_cases hsuccess : r.success = true
  · rw [if_pos hsuccess, if_pos hsuccess]
    refine parallel_bind_run (parallel_state_run parallel_get) fun s s' hs => ?_
    rw [hs.services]
    have hc : Context.Alike job.info.token t' ⟨environment registry party job s.services, []⟩
        ⟨environment registry party (job.withToken t') s.services, []⟩ :=
      ⟨alike_environment hblind.executor s.services, rfl⟩
    have hsupplied := hblind.registry _ hs.supplied
    have hexecute := Context.matches_executeValidated hc hsupplied job.info.command
    refine parallel_bind_run (parallel_state_run (parallel_liftRun hexecute)) fun p q hpq => ?_
    refine parallel_bind_run (parallel_outcome_run hpq.1) fun o o' ho => ?_
    subst ho
    exact parallel_pure_run ⟨.success _, .some hr, rfl, rfl⟩
  · rw [if_neg hsuccess, if_neg hsuccess]
    exact parallel_pure_run
      ⟨.error (SanitizedError.alike_ofValidation hr), .some hr, rfl, rfl⟩

/-- **Jobs with two tokens go alike.** -/
theorem matches_run : Matches job.info.token t' (JobRun.Alike job.info.token t')
    (run registry party job) (run registry party (job.withToken t')) := by
  unfold run
  rw [withToken_executor, withToken_scopeData, withToken_info, hblind.executor.createScope]
  have hcreate := @matches_hook job.info.token t' _ _ _ .createScope
    (job.executor.createScope job.info job.scopeData)
  refine (matches_guarded .createScope (matches_lift hcreate)).bind fun o o' ho => ?_
  cases ho with
  | @error f f' hf =>
    dsimp only
    rw [hf.text]
    refine (matches_stageFailed .createScope (.same _)).bind fun _ _ _ => ?_
    have hfailed := @alike_failed job.info.token t' _ _ none none
      (.same (EngineError.scopeCreation f.text)) .none
    exact (matches_reportFinal hblind.executor hfailed).bind fun _ _ _ => matches_pure hfailed
  | @ok _ services hservices =>
    obtain ⟨rfl, hcreated⟩ := hservices
    have hscope := @parallel_runInScope D registry party job t' hblind ⟨services, none⟩
      ⟨services, none⟩ ⟨rfl, .created hcreated, .none⟩
    refine hscope.bind ?_
    rintro ⟨outcome, scope⟩ ⟨outcome', scope'⟩ ⟨houtcome, hs⟩
    have hstage := matches_guarded .job (matches_pure houtcome)
    refine hstage.bind fun executed executed' hexecuted => ?_
    cases hexecuted with
    | ok hrun =>
      refine (matches_pure hrun).bind fun _ _ hrun => ?_
      exact matches_leave hblind.executor hs hrun
    | error hf =>
      refine (matches_stageFailed .job hf).bind fun _ _ _ => ?_
      refine (matches_pure (alike_failed hf hs.validation)).bind fun _ _ hrun => ?_
      exact matches_leave hblind.executor hs hrun

/-- **Jobs with two tokens are processed alike**, the callback that sees the report included. -/
theorem matches_process : Matches job.info.token t'
    (Option.Rel (ExecutedCommand.Alike job.info.token t')) (process registry party job)
    (process registry party (job.withToken t')) := by
  refine (matches_run hblind).bind fun r r' hr => ?_
  rw [hr.result.isSuccess, hr.events]
  refine matches_when (matches_lift (Account.matches_log ⟨rfl, rfl, rfl, .inl ⟨rfl, rfl⟩⟩)) ?_
  have hexecuted : ExecutedCommand.Alike job.info.token t'
      ⟨job.info.command, job.info.token, r.result, r.validation, r.events⟩
      ⟨job.info.command, t', r'.result, r'.validation, r.events⟩ :=
    ⟨rfl, rfl, rfl, hr.result, hr.validation, rfl⟩
  have hreport := hblind.report
  rw [withToken_report, withToken_info]
  cases hcallback : job.report with
  | none => exact matches_pure (.some hexecuted)
  | some report =>
    have hnotice := @Account.matches_notice job.info.token t' (report
      ⟨job.info.command, job.info.token, r.result, r.validation, r.events⟩)
    nth_rewrite 2 [← hreport report hcallback _ _ hexecuted] at hnotice
    refine (matches_lift hnotice).bind fun told told' htold => ?_
    subst htold
    cases told with
    | ok _ => exact matches_pure (.some hexecuted)
    | error e =>
      cases e with
      | failure f => exact matches_pure (.some hexecuted)
      | panic p =>
        refine (matches_lift (Account.matches_log ?_)).bind fun _ _ _ => matches_pure .none
        exact ⟨rfl, rfl, rfl, .inr ⟨rfl, rfl⟩⟩

end Stages
end Job
end CommandEngine
