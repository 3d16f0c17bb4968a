import CommandEngine.Proofs.Chain.Bubbling
import CommandEngine.Proofs.Chain.Congruence
import CommandEngine.Proofs.Chain.Validated
import CommandEngine.Proofs.Job.Course

/-!
# Jobs and root commands

A job validates its root command itself, tells the executor, and then executes the command without
validation; who executes the same command as the root of a chain has it validated there.  If the
executor does its part, the two come to the same: the caller of the job gets the result and the
events of the root command or the sanitized form of its failure, and the application code that is
called in between is the same, in the same order.
-/
namespace CommandEngine

open Run

/-- The error of a command that failed for reasons that stay inside. -/
def SanitizedError.unhandled (token : Token) : SanitizedError :=
  ⟨false, [.plain .error unhandledText], some token.text⟩

/-- The outcome of a root command, as the caller of a job sees it. -/
def CallerResult.ofOutcome (token : Token) : Outcome ExecutionOutcome → CallerResult
  | .ok o => .success o.result
  | .error (.failure f) => .error (.ofFailure f token)
  | .error (.panic _) => .error (.unhandled token)

/-- The events of a root command.  A failure takes them with it. -/
def Outcome.events : Outcome ExecutionOutcome → List Object
  | .ok o => o.events
  | .error _ => []

namespace Job

section Stages

variable {D : Type} {registry : Registry D} {party : String} {job : Job D}

/-! ## The same report -/

/-- The job went as the outcome says. -/
def Reports (job : Job D) (r : JobRun) (out : Outcome ExecutionOutcome) : Prop :=
  r.result = .ofOutcome job.info.token out ∧ r.events = Outcome.events out

theorem reports_raise (e : Raise) (s : JobScope D) :
    Reports job (verdict job (.error e) s) (.error e) := by
  cases e with
  | failure f => exact ⟨rfl, rfl⟩
  | panic p => exact ⟨rfl, rfl⟩

theorem reports_executed (out : Outcome ExecutionOutcome) (r : ValidationResult) (s : JobScope D) :
    Reports job (verdict job (out.map fun o => .succeeded o r) s) out := by
  cases out with
  | ok o => exact ⟨rfl, rfl⟩
  | error e => exact reports_raise e s

/-- The error of a rejected command is that of a failed validation. -/
theorem reports_rejected {r : ValidationResult} (typeName : String)
    (hfaithful : Validation.Faithful job.info.token r) (hfailed : r.success = false) :
    Reports job (.rejected r) (.error (EngineError.validationFailed typeName r : Raise)) := by
  refine ⟨congrArg CallerResult.error ?_, rfl⟩
  show SanitizedError.mk true r.messages r.logKey = ⟨true, r.messages, some job.info.token.text⟩
  rw [hfaithful.logKey hfailed]

/-! ## The same calls

The hooks are called from outside the chain. -/

theorem calls_restored (services : D) : calls (restored job services).history = [] := by
  rw [calls, marks_restored]
  cases job.scopeData.ambient <;> rfl

theorem calls_told (r : ValidationResult) : calls (told job r).history = [] :=
  congrArg (List.filter Mark.isCall) (marks_notify _ _)

theorem calls_leaving (out : Outcome JobRun) (s : JobScope D) : calls (leaving job out s) = [] := by
  rw [calls, marks_leaving]
  split <;> rfl

theorem calls_closing (r : JobRun) : calls (closing job r) = [] := by
  rw [calls, marks_closing]
  rfl

/-! ## The refinement -/

section Refinement

variable {services installed : D} {d : Descriptor D} {h : List Happening}
  {out : Outcome ExecutionOutcome} {fs : List Frame}

/-- How the job goes when the root command is rejected or cannot be validated. -/
theorem exists_course_of_refused {e : Raise}
    (hrestored : (restored job services).value = .ok installed)
    (htold : ∀ r, (told job r).value = .ok ())
    (haccepting : Validation.accepting d.type.name (validated registry job installed).value =
      .error e) : ∃ hcourse inner s, Course registry party job services hcourse inner s ∧
      Reports job (verdict job inner s) (.error e) ∧
      calls hcourse = calls (validated registry job installed).history := by
  rcases Validation.eq_of_accepting_error haccepting with hvalidated | ⟨r, hvalidated, hfailed, rfl⟩
  · refine ⟨_, _, _, .notValidated hrestored hvalidated, reports_raise e _, ?_⟩
    rw [calls_append, calls_restored]
    rfl
  · have hfaithful := (Validation.handling_validates _ _ _ _).2 r hvalidated
    refine ⟨_, _, _, .rejected hrestored hvalidated (htold r) hfailed,
      reports_rejected _ hfaithful hfailed, ?_⟩
    rw [calls_append, calls_append, calls_restored, calls_told, List.append_nil]
    rfl

/-- How the job goes when the root command is accepted. -/
theorem exists_course_of_accepted {rest : List Happening} {mid : List Frame}
    (hrestored : (restored job services).value = .ok installed)
    (htold : ∀ r, (told job r).value = .ok ())
    (haccepting : Validation.accepting d.type.name (validated registry job installed).value =
      .ok ())
    (hrest : Chain.Ends (Chain.runRoot (environment registry party job installed)
        (Chain.perform (environment registry party job installed) Chain.nestingLimit)
        Chain.nestingLimit job.info.command true).run []
      (.mark (.opened job.info.command) :: rest) out mid) :
    ∃ hcourse inner s, Course registry party job services hcourse inner s ∧
      Reports job (verdict job inner s) out ∧
      calls hcourse = calls (validated registry job installed).history ++ calls rest := by
  obtain ⟨r, hvalidated, hsucceeded⟩ := Validation.eq_of_accepting_ok haccepting
  have hexecuted : Yields (executed registry party job installed) _
      (out, ⟨environment registry party job installed, []⟩) :=
    yields_executed.mpr ⟨[], Chain.ends_executeRoot.mpr (.inr ⟨_, mid, rfl, hrest, rfl, rfl⟩), rfl⟩
  refine ⟨_, _, _, .executed hrestored hvalidated (htold r) hsucceeded hexecuted,
    reports_executed out r _, ?_⟩
  rw [calls_append, calls_append, calls_append, calls_append, calls_restored, calls_told,
    List.append_nil, calls_opened]
  show [] ++ (calls _ ++ (calls rest ++ [])) = _
  rw [List.append_nil]
  rfl

/-- Where the root command ends, the job takes a course that reports the outcome. -/
theorem exists_course_of_root
    (hrestored : (restored job services).value = .ok installed)
    (htold : ∀ r, (told job r).value = .ok ())
    (hhandled : Chain.Handled (environment registry party job installed) job.info.command d)
    (hroot : Chain.Ends (Chain.executeRoot (environment registry party job installed)
        (Chain.perform (environment registry party job installed) Chain.nestingLimit)
        Chain.nestingLimit job.info.command false).run [] h out fs) :
    ∃ hcourse inner s, Course registry party job services hcourse inner s ∧
      Reports job (verdict job inner s) out ∧ calls hcourse = calls h := by
  rcases Chain.ends_executeRoot.mp hroot with ⟨hne, -⟩ | ⟨h₁, mid, -, hrun, rfl, -⟩
  · exact absurd rfl hne
  have hended : calls (h₁ ++ [.mark .ended]) = calls h₁ := by
    rw [calls_append]
    exact List.append_nil _
  rw [hended]
  rcases hhandled.ends_runRoot.mp hrun with ⟨e, haccepting, rfl, rfl, -⟩ | ⟨haccepting, rest, hrest, rfl⟩
  · exact exists_course_of_refused hrestored htold haccepting
  · obtain ⟨hcourse, inner, s, hgoes, hreports, hcalls⟩ :=
      exists_course_of_accepted hrestored htold haccepting hrest
    exact ⟨hcourse, inner, s, hgoes, hreports, hcalls.trans (calls_append _ _).symm⟩

/-- Where the job is run to its end, the root command ends. -/
theorem exists_root_of_run {before : List Happening} {r : JobRun}
    (hcreated : (created job).value = .ok services)
    (hrestored : (restored job services).value = .ok installed)
    (htold : ∀ r, (told job r).value = .ok ())
    (hhandled : Chain.Handled (environment registry party job installed) job.info.command d)
    (hrun : Yields (run registry party job) before r) :
    ∃ h out fs, Chain.Ends (Chain.executeRoot (environment registry party job installed)
        (Chain.perform (environment registry party job installed) Chain.nestingLimit)
        Chain.nestingLimit job.info.command false).run [] h out fs := by
  refine hhandled.exists_root fun haccepting => ?_
  obtain ⟨r', hvalidated, hsucceeded⟩ := Validation.eq_of_accepting_ok haccepting
  have hvalidated : (validated registry job installed).value = .ok r' := hvalidated
  cases yields_run.mp hrun with
  | notCreated hcreated' => cases hcreated.symm.trans hcreated'
  | created hcreated' hcourse =>
    cases hcreated.symm.trans hcreated'
    cases hcourse with
    | notRestored hrestored' => cases hrestored.symm.trans hrestored'
    | notTold _ _ htold' => cases (htold _).symm.trans htold'
    | notValidated hrestored' hvalidated' =>
      cases hrestored.symm.trans hrestored'
      cases hvalidated.symm.trans hvalidated'
    | rejected hrestored' hvalidated' _ hfailed =>
      cases hrestored.symm.trans hrestored'
      cases hvalidated.symm.trans hvalidated'
      exact nomatch hsucceeded.symm.trans hfailed
    | executed hrestored' _ _ _ hexecuted =>
      cases hrestored.symm.trans hrestored'
      obtain ⟨fs, hends, -⟩ := yields_executed.mp hexecuted
      exact ⟨_, _, fs, hends⟩

/-- A job ends exactly if the root command does. -/
theorem run_ends_iff (hcreated : (created job).value = .ok services)
    (hrestored : (restored job services).value = .ok installed)
    (htold : ∀ r, (told job r).value = .ok ())
    (hhandled : Chain.Handled (environment registry party job installed) job.info.command d) :
    (∃ before r, Yields (run registry party job) before r) ↔ ∃ h out fs,
      Chain.Ends (Chain.executeRoot (environment registry party job installed)
        (Chain.perform (environment registry party job installed) Chain.nestingLimit)
        Chain.nestingLimit job.info.command false).run [] h out fs := by
  constructor
  · rintro ⟨before, r, hrun⟩
    exact exists_root_of_run hcreated hrestored htold hhandled hrun
  · rintro ⟨h, out, fs, hroot⟩
    obtain ⟨hcourse, inner, s, hgoes, -⟩ := exists_course_of_root hrestored htold hhandled hroot
    exact ⟨_, _, yields_run.mpr (.created hcreated hgoes)⟩

/-- **A job refines a root command.**  Let the executor build and prepare the services and not panic
when it is told of the validation, and let the command have a handler.  If the command, executed as
the root of a chain in the job's environment, ends within the bound on nesting, then so does the
job, and its report has the result and the events of the root command, or the sanitized form of its
failure or panic.  The application code that is called is the same, in the same order: the handling
validators of the root once, then its handler and what comes after that. -/
theorem process_refines_root {n : Nat}
    (hcreated : (created job).value = .ok services)
    (hrestored : (restored job services).value = .ok installed)
    (htold : ∀ r, (job.executor.onValidationResult job.info r).panic = none)
    (hhandled : Chain.Handled (environment registry party job installed) job.info.command d)
    (hn : n ≤ Chain.nestingLimit)
    (hroot : Chain.Ends (Chain.executeRoot (environment registry party job installed)
        (Chain.perform (environment registry party job installed) n) n job.info.command false).run
      [] h out fs) :
    ∃ (before : List Happening) (r : JobRun) (after : List Mark),
      Yields (process registry party job) (before ++ closing job r) (delivered job r) ∧
      (summary job r).result = .ofOutcome job.info.token out ∧
      (summary job r).events = Outcome.events out ∧
      calls (before ++ closing job r) = calls h ∧
      calls h = calls (validated registry job installed).history ++ after ∧
      (after = [] ∨ ∃ more, after = .handler job.info.command :: more) := by
  have htold' (r : ValidationResult) : (told job r).value = .ok () := by
    rw [told_eq, htold r]
  have hroot := Chain.below_executeRoot _ hn _ _ hroot
  obtain ⟨hcourse, inner, s, hgoes, ⟨hresult, hevents⟩, hcalls⟩ :=
    exists_course_of_root hrestored htold' hhandled hroot
  obtain ⟨after, honce, hafter⟩ := hhandled.calls_executeRoot hroot
  have hbefore : Whole registry party job ((created job).history ++ (hcourse ++ leaving job inner s))
      (verdict job inner s) := .created hcreated hgoes
  refine ⟨_, _, after, yields_process.mpr ⟨_, _, hbefore, rfl, rfl⟩, hresult, hevents, ?_, honce,
    hafter⟩
  have hcalls_created : calls (created job).history = [] :=
    congrArg (List.filter Mark.isCall) (marks_hook _ _)
  rw [calls_append, calls_append, calls_append, hcalls_created, calls_leaving, calls_closing, hcalls,
    List.nil_append, List.append_nil, List.append_nil]

end Refinement
end Stages

/-! ### A job for a command with a nested one -/

namespace Errand

open Chain.Nested

def job : Job Unit := ⟨⟨object "outer" 0, .absent⟩, .empty, .ofFactory fun _ => pure (), none⟩

theorem outer_handled : Chain.Handled (environment registry "local" job ()) job.info.command
    (descriptor "outer" .command (some outer)) := ⟨rfl, rfl, rfl⟩

theorem outer_ends : ∃ h fs, Chain.Ends (Chain.executeRoot (environment registry "local" job ())
      (Chain.perform (environment registry "local" job ()) 2) 2 job.info.command false).run [] h
    (.ok ⟨.void, [object "event" 1, object "event" 3]⟩) fs := ⟨_, _, rfl⟩

/-- The job reports the events that survive in the chain of the root command. -/
theorem process_refines_root_errand :
    (created job).value = .ok () ∧ (restored job ()).value = .ok () ∧
    (∀ r, (job.executor.onValidationResult job.info r).panic = none) ∧
    Chain.Handled (environment registry "local" job ()) job.info.command
      (descriptor "outer" .command (some outer)) ∧
    2 ≤ Chain.nestingLimit ∧
    ∃ h fs before r, Chain.Ends (Chain.executeRoot (environment registry "local" job ())
        (Chain.perform (environment registry "local" job ()) 2) 2 job.info.command false).run [] h
      (.ok ⟨.void, [object "event" 1, object "event" 3]⟩) fs ∧
      Yields (process registry "local" job) (before ++ closing job r) (some (summary job r)) ∧
      (summary job r).result = .success .void ∧
      (summary job r).events = [object "event" 1, object "event" 3] := by
  have hlimit : 2 ≤ Chain.nestingLimit := by decide
  obtain ⟨h, fs, hroot⟩ := outer_ends
  obtain ⟨before, r, after, hprocess, hresult, hevents, -⟩ :=
    process_refines_root rfl rfl (fun _ => rfl) outer_handled hlimit hroot
  exact ⟨rfl, rfl, fun _ => rfl, outer_handled, hlimit, h, fs, before, r, hroot, hprocess, hresult,
    hevents⟩

end Errand
end Job
end CommandEngine
