import CommandEngine.Proofs.Job.Refinement

/-!
# What a caller learns of a failure

Whatever goes wrong in a job, its caller gets a sanitized error.  Its key leads to the log, and its
messages are those of a validation that failed or else the generic one.

A job that does not succeed was rejected by the validators of its root command, or it failed at one
of five places (`Fails`): the application raised something while the scope was created or the
ambient values were restored, in a validator, when the executor was told of the validation, or
while the root command was executed.  Of what it raised only one thing may be shown: a failed
validation that is the cause of a failure of the validators or of the execution, below any contexts
(`Shown`).  The first two places wrap the failure in an error of their own that keeps the text
alone, and a panic becomes a failure without a cause of the engine, so nothing is found in these.

For each way to fail the course of the job is known, and with it the job's result.  So the result is
the same for all that is raised and not shown, and two jobs that fail cannot be told apart by it.
-/
namespace CommandEngine

open Run

/-- What is found in a failure is its cause, whatever its contexts are. -/
theorem Failure.validation?_eq_some {f : Failure} {v : ValidationResult} :
    f.validation? = some v ↔
      ∃ contexts typeName, f = ⟨contexts, .engine (.validationFailed typeName v)⟩ := by
  constructor
  · intro hfound
    rcases f with ⟨contexts, e | text⟩
    · cases e with
      | validationFailed typeName r =>
        cases hfound
        exact ⟨contexts, typeName, rfl⟩
      | _ => cases hfound
    · cases hfound
  · rintro ⟨contexts, typeName, rfl⟩
    rfl

theorem SanitizedError.ofFailure_of_some {f : Failure} {v : ValidationResult} (token : Token)
    (hfound : f.validation? = some v) :
    SanitizedError.ofFailure f token = ⟨true, v.messages, some token.text⟩ := by
  rw [SanitizedError.ofFailure, hfound]

theorem SanitizedError.ofFailure_of_none {f : Failure} (token : Token)
    (hfound : f.validation? = none) : SanitizedError.ofFailure f token = .unhandled token := by
  rw [SanitizedError.ofFailure, hfound]
  rfl

namespace Job

/-- Where a job may fail. -/
inductive Place where
  | creatingScope
  | restoring
  | validating
  /-- The executor is told of the validation. -/
  | telling
  | executing
  deriving DecidableEq

/-- The error of what is raised at a place may show a validation. -/
def Place.mayShow : Place → Bool
  | validating | executing => true
  | creatingScope | restoring | telling => false

section Stages

variable {D : Type} (registry : Registry D) (party : String) (job : Job D)

/-- The application raises something at a place of the job, and everything before it returns. -/
inductive Fails : Place → Raise → Prop
  | creatingScope {e : Raise}
    (hcreate : (job.executor.createScope job.info job.scopeData).outcome = .error e) :
    Fails .creatingScope e
  | restoring {services : D} {values : AmbientValues} {e : Raise}
    (hcreated : (created job).value = .ok services) (hambient : job.scopeData.ambient = some values)
    (hrestore : (job.executor.restoreAmbientValues services values).outcome = .error e) :
    Fails .restoring e
  | validating {services installed : D} {e : Raise}
    (hcreated : (created job).value = .ok services)
    (hrestored : (restored job services).value = .ok installed)
    (hvalidated : (validated registry job installed).value = .error e) : Fails .validating e
  | telling {services installed : D} {v : ValidationResult} {p : Panic}
    (hcreated : (created job).value = .ok services)
    (hrestored : (restored job services).value = .ok installed)
    (hvalidated : (validated registry job installed).value = .ok v)
    (htold : (job.executor.onValidationResult job.info v).panic = some p) :
    Fails .telling (.panic p)
  | executing {services installed : D} {v : ValidationResult} {e : Raise} {h : List Happening}
    {c : Context D} (hcreated : (created job).value = .ok services)
    (hrestored : (restored job services).value = .ok installed)
    (hvalidated : (validated registry job installed).value = .ok v)
    (htold : (job.executor.onValidationResult job.info v).panic = none)
    (hsucceeded : v.success = true)
    (hexecuted : Yields (executed registry party job installed) h (.error e, c)) : Fails .executing e

/-- The handling validation of the root command failed, and the executor was told. -/
inductive RejectedWith : ValidationResult → Prop
  | intro {services installed : D} {v : ValidationResult}
    (hcreated : (created job).value = .ok services)
    (hrestored : (restored job services).value = .ok installed)
    (hvalidated : (validated registry job installed).value = .ok v)
    (htold : (job.executor.onValidationResult job.info v).panic = none)
    (hfailed : v.success = false) : RejectedWith v

/-- The validations that a job may show to its caller: that of its root command, when it failed, and
one below contexts in the failure of the validators or of the execution. -/
inductive Shown : ValidationResult → Prop
  | rejected {v : ValidationResult} (hrejected : RejectedWith registry job v) : Shown v
  | failed {place : Place} {contexts : List String} {typeName : String} {v : ValidationResult}
    (hplace : place.mayShow)
    (hfails : Fails registry party job place
      (.failure ⟨contexts, .engine (.validationFailed typeName v)⟩)) : Shown v

variable {registry party job} {place : Place} {e : Raise} {h : List Happening} {r : JobRun}

/-! ## The course of a failure -/

theorem told_ok_iff {v : ValidationResult} :
    (told job v).value = .ok () ↔ (job.executor.onValidationResult job.info v).panic = none := by
  rw [told_eq]
  cases (job.executor.onValidationResult job.info v).panic with
  | none => exact iff_of_true rfl rfl
  | some p => exact iff_of_false nofun nofun

theorem told_error_iff {v : ValidationResult} : (told job v).value = .error e ↔
    ∃ p, (job.executor.onValidationResult job.info v).panic = some p ∧ e = .panic p := by
  rw [told_eq]
  cases (job.executor.onValidationResult job.info v).panic with
  | none => exact iff_of_false nofun fun ⟨_, hnone, _⟩ => nomatch hnone
  | some p =>
    constructor
    · rintro ⟨⟩
      exact ⟨p, rfl, rfl⟩
    · rintro ⟨_, ⟨⟩, rfl⟩
      rfl

/-- What the hook raises is wrapped. -/
theorem restored_error_iff {services : D} : (restored job services).value = .error e ↔
    ∃ values inner, job.scopeData.ambient = some values ∧
      (job.executor.restoreAmbientValues services values).outcome = .error inner ∧
      e = inner.ofRestoring := by
  unfold restored
  cases hambient : job.scopeData.ambient with
  | none => exact iff_of_false nofun fun ⟨_, _, hnone, _⟩ => nomatch hnone
  | some values =>
    show Except.mapError Raise.ofRestoring
      (job.executor.restoreAmbientValues services values).outcome = .error e ↔ _
    cases houtcome : (job.executor.restoreAmbientValues services values).outcome with
    | ok installed =>
      refine iff_of_false nofun ?_
      rintro ⟨_, inner, ⟨⟩, hinner, -⟩
      exact nomatch houtcome.symm.trans hinner
    | error inner =>
      constructor
      · rintro ⟨⟩
        exact ⟨values, inner, rfl, houtcome, rfl⟩
      · rintro ⟨_, inner', ⟨⟩, hinner, rfl⟩
        cases houtcome.symm.trans hinner
        rfl

/-- A run is the one that the course of the job leads to. -/
theorem eq_verdict {services : D} {hcourse : List Happening} {out : Outcome JobRun} {s : JobScope D}
    (hrun : Yields (run registry party job) h r) (hcreated : (created job).value = .ok services)
    (hgoes : Course registry party job services hcourse out s) : r = verdict job out s := by
  have hwhole := yields_run.mpr (.created hcreated hgoes)
  exact ((yields_of_run hwhole).mp hrun).2

/-- The failure that reaches the boundary of the job. -/
def Place.outside : Place → Raise → Failure
  | creatingScope, e => creationFailure e
  | restoring, e => (Raise.ofRestoring e).contained .job
  | validating, e | telling, e | executing, e => e.contained .job

theorem Fails.result_eq (hfails : Fails registry party job place e)
    (hrun : Yields (run registry party job) h r) :
    r.result = .error (.ofFailure (place.outside e) job.info.token) := by
  cases hfails with
  | creatingScope hcreate =>
    have hwhole : Whole registry party job _ _ := .notCreated hcreate
    rw [((yields_of_run (yields_run.mpr hwhole)).mp hrun).2]
    rfl
  | @restoring services values _ hcreated hambient hrestore =>
    have hrestored : (restored job services).value = .error e.ofRestoring :=
      restored_error_iff.mpr ⟨values, e, hambient, hrestore, rfl⟩
    rw [eq_verdict hrun hcreated (.notRestored hrestored)]
    rfl
  | validating hcreated hrestored hvalidated =>
    rw [eq_verdict hrun hcreated (.notValidated hrestored hvalidated)]
    rfl
  | telling hcreated hrestored hvalidated htold =>
    rw [eq_verdict hrun hcreated (.notTold hrestored hvalidated (told_error_iff.mpr ⟨_, htold, rfl⟩))]
    rfl
  | executing hcreated hrestored hvalidated htold hsucceeded hexecuted =>
    rw [eq_verdict hrun hcreated
      (.executed hrestored hvalidated (told_ok_iff.mpr htold) hsucceeded hexecuted)]
    rfl

/-- Nothing is found in a panic. -/
theorem validation?_contained {stage : JobStage} {v : ValidationResult}
    (hfound : (e.contained stage).validation? = some v) :
    ∃ contexts typeName, e = .failure ⟨contexts, .engine (.validationFailed typeName v)⟩ := by
  cases e with
  | failure f =>
    obtain ⟨contexts, typeName, rfl⟩ := Failure.validation?_eq_some.mp hfound
    exact ⟨contexts, typeName, rfl⟩
  | panic p => cases hfound

/-- What is found at the boundary may be shown: the other places wrap it, or there is nothing but a
panic. -/
theorem Fails.shown {v : ValidationResult} (hfails : Fails registry party job place e)
    (hfound : (place.outside e).validation? = some v) : Shown registry party job v := by
  cases hfails with
  | creatingScope => cases hfound
  | restoring => cases e <;> cases hfound
  | validating hcreated hrestored hvalidated =>
    obtain ⟨contexts, typeName, rfl⟩ := validation?_contained hfound
    exact .failed rfl (.validating hcreated hrestored hvalidated)
  | telling => cases hfound
  | executing hcreated hrestored hvalidated htold hsucceeded hexecuted =>
    obtain ⟨contexts, typeName, rfl⟩ := validation?_contained hfound
    exact .failed rfl (.executing hcreated hrestored hvalidated htold hsucceeded hexecuted)

/-! ## The result of a failure -/

/-- A failure is told by the generic message if nothing of it may be shown. -/
theorem Fails.unhandled (hfails : Fails registry party job place e)
    (hrun : Yields (run registry party job) h r)
    (hhidden : place.mayShow = false ∨ ∀ v, ¬ Shown registry party job v) :
    r.result = .error (.unhandled job.info.token) := by
  rw [hfails.result_eq hrun]
  cases hfound : (place.outside e).validation? with
  | none => rw [SanitizedError.ofFailure_of_none _ hfound]
  | some v =>
    -- a validation is found only where it may be shown, so it is one of those that are excluded
    rcases hhidden with hplace | hnone
    · cases hfails with
      | creatingScope => cases hfound
      | restoring => cases e <;> cases hfound
      | telling => cases hfound
      | validating => cases hplace
      | executing => cases hplace
    · exact absurd (hfails.shown hfound) (hnone v)

theorem RejectedWith.result_eq {v : ValidationResult} (hrejected : RejectedWith registry job v)
    (hrun : Yields (run registry party job) h r) :
    r.result = .error ⟨true, v.messages, some job.info.token.text⟩ := by
  obtain ⟨hcreated, hrestored, hvalidated, htold, hfailed⟩ := hrejected
  have hfaithful := (Validation.handling_validates _ _ _ _).2 v hvalidated
  rw [eq_verdict hrun hcreated (.rejected hrestored hvalidated (told_ok_iff.mpr htold) hfailed),
    ← hfaithful.logKey hfailed]
  rfl

/-- What may be shown is shown. -/
theorem Shown.result_eq {v : ValidationResult} (hshown : Shown registry party job v)
    (hrun : Yields (run registry party job) h r) :
    r.result = .error ⟨true, v.messages, some job.info.token.text⟩ := by
  cases hshown with
  | rejected hrejected => exact hrejected.result_eq hrun
  | @failed place contexts typeName _ hplace hfails =>
    have hfound : (place.outside
        (.failure ⟨contexts, .engine (.validationFailed typeName v)⟩)).validation? = some v := by
      cases place with
      | validating => rfl
      | executing => rfl
      | creatingScope | restoring | telling => cases hplace
    rw [hfails.result_eq hrun, SanitizedError.ofFailure_of_some _ hfound]

/-- A job that does not succeed was rejected or failed at one of the places. -/
theorem rejected_or_fails {error : SanitizedError} (hrun : Yields (run registry party job) h r)
    (herror : r.result = .error error) :
    (∃ v, RejectedWith registry job v) ∨ ∃ place e, Fails registry party job place e := by
  cases yields_run.mp hrun with
  | notCreated hcreated => exact .inr ⟨_, _, .creatingScope hcreated⟩
  | created hcreated hcourse =>
    cases hcourse with
    | notRestored hrestored =>
      obtain ⟨values, inner, hambient, hrestore, -⟩ := restored_error_iff.mp hrestored
      exact .inr ⟨_, _, .restoring hcreated hambient hrestore⟩
    | notValidated hrestored hvalidated =>
      exact .inr ⟨_, _, .validating hcreated hrestored hvalidated⟩
    | notTold hrestored hvalidated htold =>
      obtain ⟨p, hpanic, -⟩ := told_error_iff.mp htold
      exact .inr ⟨_, _, .telling hcreated hrestored hvalidated hpanic⟩
    | rejected hrestored hvalidated htold hfailed =>
      exact .inl ⟨_, hcreated, hrestored, hvalidated, told_ok_iff.mp htold, hfailed⟩
    | @executed installed v h out c hrestored hvalidated htold hsucceeded hexecuted =>
      cases out with
      | ok o => cases herror
      | error e => exact .inr ⟨_, _,
          .executing hcreated hrestored hvalidated (told_ok_iff.mp htold) hsucceeded hexecuted⟩

/-- **A caller learns nothing but messages of validations.**  The key of an error leads to the log.
The error is a validation error exactly if there is a validation to show, and has its messages;
otherwise it is the generic one, as it always is when a scope is not created or ambient values are
not restored.  So jobs for the same command that fail at the same place have the same result,
whatever was raised there, unless a validation is shown.  What is delivered of the job is this
result. -/
theorem errors_sanitized (hrun : Yields (run registry party job) h r) :
    (∀ error, r.result = .error error → error.logKey = some job.info.token.text ∧
      ((error.isValidationError = true ∧
          ∃ v, Shown registry party job v ∧ error.messages = v.messages) ∨
        (error.isValidationError = false ∧
          error.messages = [.plain .error SanitizedError.unhandledText]))) ∧
    (∀ v, Shown registry party job v →
      r.result = .error ⟨true, v.messages, some job.info.token.text⟩) ∧
    (∀ e, Fails registry party job .creatingScope e ∨ Fails registry party job .restoring e →
      r.result = .error (.unhandled job.info.token)) ∧
    (∀ {D' : Type} {registry' : Registry D'} {party' : String} {job' : Job D'} {h' r'},
      Yields (run registry' party' job') h' r' → job'.info = job.info →
      ∀ place e e', Fails registry party job place e → Fails registry' party' job' place e' →
        (∀ v, ¬ Shown registry party job v) → (∀ v, ¬ Shown registry' party' job' v) →
        r'.result = r.result) ∧
    ∀ h' report, Yields (process registry party job) h' (some report) →
      report.result = r.result := by
  refine ⟨?_, ?_, ?_, ?_, ?_⟩
  · intro error herror
    -- a validation that may be shown settles the result; without one it is the same for all failures
    by_cases hshown : ∃ v, Shown registry party job v
    · obtain ⟨v, hv⟩ := hshown
      cases herror.symm.trans (hv.result_eq hrun)
      exact ⟨rfl, .inl ⟨rfl, v, hv, rfl⟩⟩
    · rw [not_exists] at hshown
      rcases rejected_or_fails hrun herror with ⟨v, hrejected⟩ | ⟨place, e, hfails⟩
      · exact absurd (.rejected hrejected) (hshown v)
      · cases herror.symm.trans (hfails.unhandled hrun (.inr hshown))
        exact ⟨rfl, .inr ⟨rfl, rfl⟩⟩
  · intro v hshown
    exact hshown.result_eq hrun
  · rintro e (hfails | hfails)
    · exact hfails.unhandled hrun (.inl rfl)
    · exact hfails.unhandled hrun (.inl rfl)
  · intro D' registry' party' job' h' r' hrun' hinfo place e e' hfails hfails' hhidden hhidden'
    rw [hfails.unhandled hrun (.inr hhidden), hfails'.unhandled hrun' (.inr hhidden'), hinfo]
  · intro h' report hprocess
    obtain ⟨h₁, r₁, hwhole, -, hdelivered⟩ := yields_process.mp hprocess
    obtain ⟨-, rfl⟩ := (yields_of_run hrun).mp (yields_run.mpr hwhole)
    unfold delivered at hdelivered
    split at hdelivered
    · cases hdelivered
    · cases hdelivered
      rfl

end Stages

/-! ### A failed validation in the command and in the scope -/

namespace Concealed

open Chain.Nested (object descriptor)

/-- The result of some validation, with a message of its own. -/
def refusal : ValidationResult := ⟨[.plain .error "out of stock"], false, none⟩

/-- It comes up under a context. -/
def refused : Raise := .failure ⟨["while ordering"], .engine (.validationFailed "item" refusal)⟩

def panicked : Raise := .panic .other

/-- The command ends in the failed validation. -/
def registry : Registry Unit :=
  .of [descriptor "order" .command (some (.raise refused))]

def job (scope : Act Unit) : Job Unit :=
  ⟨⟨object "order" 0, .absent⟩, .empty, .ofFactory fun _ => scope, none⟩

theorem order_fails : Fails registry "local" (job (pure ())) .executing refused :=
  .executing rfl rfl rfl rfl rfl (h := _) (c := _) rfl

theorem not_shown {e : Raise} {v : ValidationResult} :
    ¬ Shown registry "local" (job (throw e)) v := by
  rintro (⟨hcreated, -⟩ | ⟨hplace, hfails⟩)
  · cases hcreated
  · cases hfails with
    | creatingScope => cases hplace
    | restoring => cases hplace
    | validating hcreated => cases hcreated
    | executing hcreated => cases hcreated

/-- The caller gets the message when the command itself ends in the failed validation.  When this is
what the scope fails with, the caller gets what a panic there comes to. -/
theorem errors_sanitized_concealed :
    (∃ h r, Yields (run registry "local" (job (pure ()))) h r ∧
      r.result = .error ⟨true, [.plain .error "out of stock"], some Token.absent.text⟩) ∧
    ∃ h r h' r', Yields (run registry "local" (job (throw refused))) h r ∧
      Yields (run registry "local" (job (throw panicked))) h' r' ∧
      r.result = .error (.unhandled .absent) ∧ r'.result = r.result := by
  constructor
  · obtain ⟨h, r, hrun⟩ : ∃ h r, Yields (run registry "local" (job (pure ()))) h r := ⟨_, _, rfl⟩
    obtain ⟨-, hshown, -⟩ := errors_sanitized hrun
    exact ⟨h, r, hrun, hshown refusal (.failed rfl order_fails)⟩
  · obtain ⟨h, r, hrun⟩ : ∃ h r, Yields (run registry "local" (job (throw refused))) h r :=
      ⟨_, _, rfl⟩
    obtain ⟨h', r', hrun'⟩ : ∃ h r, Yields (run registry "local" (job (throw panicked))) h r :=
      ⟨_, _, rfl⟩
    obtain ⟨-, -, hwrapped, hsame, -⟩ := errors_sanitized hrun
    have hfails : Fails registry "local" (job (throw refused)) .creatingScope refused :=
      .creatingScope rfl
    exact ⟨h, r, h', r', hrun, hrun', hwrapped _ (.inl hfails),
      hsame hrun' rfl _ _ _ hfails (.creatingScope rfl) (fun _ => not_shown) fun _ => not_shown⟩

end Concealed
end Job
end CommandEngine
