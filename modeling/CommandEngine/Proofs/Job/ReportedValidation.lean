import CommandEngine.Proofs.Job.Hooks
import CommandEngine.Proofs.Job.Sanitization

/-!
# The validation in a report

A report says what the handling validation of the root command found.  The engine writes the result
down on the way through the scope, and whatever fails or panics after that cannot take it back: the
failure of a job is reported with what was written down until then.

It is written down when the executor has been told of it, not when the validators are done.  So a
job leaves the scope without it from four of the places where it may fail, and the last of these is
the telling: an executor that panics there makes the report silent on a validation that did give a
result.  It is the only way in which a report and the validation come apart.
-/
namespace CommandEngine
namespace Job

open Run

section Stages

variable {D : Type} (registry : Registry D) (party : String) (job : Job D)

/-- The result of the handling validation, if the executor was told of it without panicking. -/
def toldValidation? : Option ValidationResult :=
  (validation? registry job).filter fun v => (job.executor.onValidationResult job.info v).panic.isNone

/-- The places before the validators are done. -/
def Place.precedesResult : Place → Bool
  | creatingScope | restoring | validating => true
  | telling | executing => false

variable {registry party job} {services installed : D} {v : ValidationResult} {place : Place}
  {e : Raise} {h : List Happening} {r : JobRun}

/-! ## Where there is a result -/

/-- The handling validation gave a result if its services were there and the validators returned. -/
theorem validation?_eq_some_iff : validation? registry job = some v ↔ ∃ services installed,
    (created job).value = .ok services ∧ (restored job services).value = .ok installed ∧
      (validated registry job installed).value = .ok v := by
  constructor
  · intro hvalidation
    cases hcreated : (created job).value with
    | error e => cases (validation?_of_notCreated hcreated).symm.trans hvalidation
    | ok services =>
      cases hrestored : (restored job services).value with
      | error e => cases (validation?_of_notRestored hcreated hrestored).symm.trans hvalidation
      | ok installed =>
        cases hvalidated : (validated registry job installed).value with
        | error e =>
          cases (validation?_of_validated hcreated hrestored hvalidated).symm.trans hvalidation
        | ok v' =>
          cases (validation?_of_validated hcreated hrestored hvalidated).symm.trans hvalidation
          exact ⟨services, installed, rfl, hrestored, hvalidated⟩
  · rintro ⟨services, installed, hcreated, hrestored, hvalidated⟩
    exact validation?_of_validated hcreated hrestored hvalidated

/-- A job that fails before the validators are done has no result of them. -/
theorem Fails.validation?_eq_none (hfails : Fails registry party job place e)
    (hplace : place.precedesResult) : validation? registry job = none := by
  cases hfails with
  | creatingScope hcreate =>
    have hcreated : (created job).value = .error _ := hcreate
    exact validation?_of_notCreated hcreated
  | restoring hcreated hambient hrestore =>
    exact validation?_of_notRestored hcreated
      (restored_error_iff.mpr ⟨_, _, hambient, hrestore, rfl⟩)
  | validating hcreated hrestored hvalidated =>
    exact validation?_of_validated hcreated hrestored hvalidated
  | telling | executing => cases hplace

/-- A job that fails after the validators were done has their result. -/
theorem Fails.exists_validation (hfails : Fails registry party job place e)
    (hplace : place.precedesResult = false) : ∃ v, validation? registry job = some v ∧
      ((job.executor.onValidationResult job.info v).panic = none ↔ place ≠ .telling) := by
  cases hfails with
  | creatingScope | restoring | validating => cases hplace
  | telling hcreated hrestored hvalidated htold =>
    refine ⟨_, validation?_of_validated hcreated hrestored hvalidated, ?_⟩
    rw [htold]
    exact iff_of_false nofun fun hne => hne rfl
  | executing hcreated hrestored hvalidated htold =>
    exact ⟨_, validation?_of_validated hcreated hrestored hvalidated, iff_of_true htold nofun⟩

/-- There is no result exactly if the job fails before the validators are done. -/
theorem validation?_eq_none_iff : validation? registry job = none ↔
    ∃ place e, place.precedesResult ∧ Fails registry party job place e := by
  constructor
  · intro hvalidation
    cases hcreated : (created job).value with
    | error e => exact ⟨_, _, rfl, .creatingScope hcreated⟩
    | ok services =>
      cases hrestored : (restored job services).value with
      | error e =>
        obtain ⟨values, inner, hambient, hrestore, -⟩ := restored_error_iff.mp hrestored
        exact ⟨_, _, rfl, .restoring hcreated hambient hrestore⟩
      | ok installed =>
        cases hvalidated : (validated registry job installed).value with
        | error e => exact ⟨_, _, rfl, .validating hcreated hrestored hvalidated⟩
        | ok v =>
          cases (validation?_of_validated hcreated hrestored hvalidated).symm.trans hvalidation
  · rintro ⟨place, e, hplace, hfails⟩
    exact hfails.validation?_eq_none hplace

theorem fails_telling_iff : (∃ e, Fails registry party job .telling e) ↔
    ∃ v, validation? registry job = some v ∧
      (job.executor.onValidationResult job.info v).panic ≠ none := by
  constructor
  · rintro ⟨e, hfails⟩
    obtain ⟨v, hvalidation, htelling⟩ := hfails.exists_validation rfl
    exact ⟨v, hvalidation, fun hnone => htelling.mp hnone rfl⟩
  · rintro ⟨v, hvalidation, hpanic⟩
    obtain ⟨services, installed, hcreated, hrestored, hvalidated⟩ :=
      validation?_eq_some_iff.mp hvalidation
    obtain ⟨p, hp⟩ := Option.ne_none_iff_exists'.mp hpanic
    exact ⟨_, .telling hcreated hrestored hvalidated hp⟩

/-! ## What is written down of it -/

theorem toldValidation?_eq_some_iff : toldValidation? registry job = some v ↔
    validation? registry job = some v ∧
      (job.executor.onValidationResult job.info v).panic = none := by
  rw [toldValidation?, Option.filter_eq_some_iff, Option.isNone_iff_eq_none]

theorem toldValidation?_eq_none_iff : toldValidation? registry job = none ↔
    validation? registry job = none ∨ ∃ e, Fails registry party job .telling e := by
  rw [fails_telling_iff, Option.eq_none_iff_forall_ne_some]
  constructor
  · intro hnone
    cases hvalidation : validation? registry job with
    | none => exact .inl rfl
    | some v =>
      exact .inr ⟨v, rfl, fun htold => hnone v (toldValidation?_eq_some_iff.mpr ⟨hvalidation, htold⟩)⟩
  · intro hcut v htold
    obtain ⟨hvalidation, hsilent⟩ := toldValidation?_eq_some_iff.mp htold
    rcases hcut with hnone | ⟨v', hvalidation', hpanic⟩
    · cases hnone.symm.trans hvalidation
    · cases hvalidation'.symm.trans hvalidation
      exact hpanic hsilent

theorem toldValidation?_eq_iff : toldValidation? registry job = validation? registry job ↔
    ¬ ∃ e, Fails registry party job .telling e := by
  rw [fails_telling_iff]
  constructor
  · rintro hagree ⟨v, hvalidation, hpanic⟩
    exact hpanic (toldValidation?_eq_some_iff.mp (hagree.trans hvalidation)).2
  · intro htelling
    refine Option.ext fun v => ?_
    rw [toldValidation?_eq_some_iff]
    exact ⟨And.left, fun hvalidation =>
      ⟨hvalidation, by_contra fun hpanic => htelling ⟨v, hvalidation, hpanic⟩⟩⟩

/-- What the scope knows when it is left, and with it the run. -/
theorem Course.validation_eq {out : Outcome JobRun} {s : JobScope D}
    (hcourse : Course registry party job services h out s)
    (hcreated : (created job).value = .ok services) :
    (verdict job out s).validation = toldValidation? registry job := by
  cases hcourse with
  | notRestored hrestored =>
    rw [toldValidation?, validation?_of_notRestored hcreated hrestored]
    rfl
  | notValidated hrestored hvalidated =>
    rw [toldValidation?, validation?_of_validated hcreated hrestored hvalidated]
    rfl
  | notTold hrestored hvalidated htold =>
    obtain ⟨p, hpanic, -⟩ := told_error_iff.mp htold
    rw [toldValidation?, validation?_of_validated hcreated hrestored hvalidated]
    exact (Option.filter_eq_none_iff.mpr (by rintro _ ⟨⟩; simp [hpanic])).symm
  | rejected hrestored hvalidated htold hfailed =>
    exact (toldValidation?_eq_some_iff.mpr
      ⟨validation?_of_validated hcreated hrestored hvalidated, told_ok_iff.mp htold⟩).symm
  | @executed installed v h out c hrestored hvalidated htold hsucceeded hexecuted =>
    have htoldResult := toldValidation?_eq_some_iff.mpr
      ⟨validation?_of_validated hcreated hrestored hvalidated, told_ok_iff.mp htold⟩
    -- the way in which the execution ends makes no difference
    cases out with
    | ok o => exact htoldResult.symm
    | error e => exact htoldResult.symm

theorem Whole.validation_eq (hwhole : Whole registry party job h r) :
    r.validation = toldValidation? registry job := by
  cases hwhole with
  | notCreated hcreated =>
    rw [toldValidation?, validation?_of_notCreated hcreated]
    rfl
  | created hcreated hcourse => exact hcourse.validation_eq hcreated

/-! ## What the caller reads -/

theorem summary_of_delivered {report : ExecutedCommand} (hdelivered : delivered job r = some report) :
    report = summary job r := by
  unfold delivered at hdelivered
  split at hdelivered
  · cases hdelivered
  · exact (Option.some.inj hdelivered).symm

/-- **The validation in a report.**  A job's run has the result `v` exactly if the handling
validation of the root command gave it and the executor did not panic when it was told.  It has none
exactly if the job fails in one of the places up to there; the validation itself gave no result
exactly if the place is one of the three before.  So the two agree unless the telling panics.  What
the caller gets of the job is what the run has. -/
theorem validation_reported (hrun : Yields (run registry party job) h r) :
    (∀ v, r.validation = some v ↔ validation? registry job = some v ∧
      (job.executor.onValidationResult job.info v).panic = none) ∧
    (r.validation = none ↔
      ∃ place e, (place.precedesResult ∨ place = .telling) ∧ Fails registry party job place e) ∧
    (validation? registry job = none ↔
      ∃ place e, place.precedesResult ∧ Fails registry party job place e) ∧
    (r.validation = validation? registry job ↔ ¬ ∃ e, Fails registry party job .telling e) ∧
    ∀ h' report, Yields (process registry party job) h' (some report) →
      report.validation = r.validation := by
  have hvalidation : r.validation = toldValidation? registry job :=
    (yields_run.mp hrun).validation_eq
  refine ⟨fun v => ?_, ?_, validation?_eq_none_iff, ?_, ?_⟩
  · rw [hvalidation, toldValidation?_eq_some_iff]
  · rw [hvalidation, toldValidation?_eq_none_iff, validation?_eq_none_iff]
    constructor
    · rintro (⟨place, e, hplace, hfails⟩ | ⟨e, hfails⟩)
      · exact ⟨place, e, .inl hplace, hfails⟩
      · exact ⟨_, e, .inr rfl, hfails⟩
    · rintro ⟨place, e, hplace | rfl, hfails⟩
      · exact .inl ⟨place, e, hplace, hfails⟩
      · exact .inr ⟨e, hfails⟩
  · rw [hvalidation]
    exact toldValidation?_eq_iff
  · intro h' report hprocess
    obtain ⟨h₁, r₁, hwhole, -, hdelivered⟩ := yields_process.mp hprocess
    obtain ⟨-, rfl⟩ := (yields_of_run hrun).mp (yields_run.mpr hwhole)
    rw [summary_of_delivered hdelivered.symm]
    rfl

end Stages

/-! ### A command that breaks, and an executor that does -/

namespace Startled

open Chain.Nested (object descriptor)

/-- The command is accepted by its validators and then breaks. -/
def registry : Registry Unit :=
  .of [descriptor "order" .command (some (.raise (.panic (.text "out of paper"))))]

/-- The executor has something to do when it is told of the validation. -/
def job (told : Notice) : Job Unit :=
  ⟨⟨object "order" 0, .absent⟩, .empty,
    { Executor.ofFactory fun _ => pure () with onValidationResult := fun _ _ => told }, none⟩

/-- The panic of the command does not take the validation back. -/
theorem validation_reported_broken : ∃ h r, Yields (run registry "local" (job .silent)) h r ∧
    r.result = .error (.unhandled .absent) ∧ r.validation = some .ok := by
  obtain ⟨h, r, hrun, hresult⟩ : ∃ h r, Yields (run registry "local" (job .silent)) h r ∧
      r.result = .error (.unhandled .absent) := ⟨_, _, rfl, rfl⟩
  obtain ⟨hreported, -⟩ := validation_reported hrun
  exact ⟨h, r, hrun, hresult, (hreported .ok).mpr ⟨rfl, rfl⟩⟩

/-- The command was validated, and the report does not say so. -/
theorem validation_unreported : ∃ h report,
    Yields (process registry "local" (job ⟨[], some (.text "told")⟩)) h (some report) ∧
      validation? registry (job ⟨[], some (.text "told")⟩) = some .ok ∧
      report.validation = none :=
  ⟨_, _, rfl, rfl, rfl⟩

end Startled
end Job
end CommandEngine
