import CommandEngine.Proofs.Chain.Bubbling
import CommandEngine.Proofs.Chain.Congruence
import CommandEngine.Proofs.Host.Tickets
import CommandEngine.Proofs.Job.Course
import Mathlib.Data.Set.List

/-!
# The calls of a job's hooks

Every stage of a job calls one hook or none, and marks the call before the hook does anything, so a
hook that fails or panics is called like any other.  Which hooks are called is therefore read off
the stages that the job goes through.  The only stage that application code shares with the engine
is the execution of the command; the chain has no way to a hook but its sink, and the sink calls
the hook for immediate events.

The report is made of the run when the run is over, and a host completes a ticket when the history
of the job has been played back to its end, so all hooks were called by then.
-/
namespace CommandEngine

open Run

/-- The calls of hooks in a history. -/
def hookCalls (h : List Happening) : List HookCall := (Chain.marks h).filterMap Mark.hook?

@[simp] theorem hookCalls_nil : hookCalls [] = [] := rfl

@[simp] theorem hookCalls_append (h₁ h₂ : List Happening) :
    hookCalls (h₁ ++ h₂) = hookCalls h₁ ++ hookCalls h₂ := by
  rw [hookCalls, Chain.marks_append, List.filterMap_append]
  rfl

theorem hookCalls_of_leaves {α : Type} {a : Account α} (ha : a.Leaves fun m => m.hook? = none) :
    hookCalls a.history = [] :=
  List.filterMap_eq_nil_iff.mpr ha

/-! ## What marks a chain leaves

A chain marks its own steps, and through its sink it reaches outside: what the sink leaves is the
only part of the history that the engine does not write.  So if `P` is true of the engine's own
marks and of those of the sink, it is true of every mark of every chain, whatever the application
code is.
-/

namespace Chain
section Marks

variable {D : Type} {env : Environment D} {P : Mark → Prop}

/-- All marks that runs of the operation leave are such that `P`. -/
def Leaves {α : Type} (P : Mark → Prop) (x : OnStack α) : Prop :=
  ∀ ⦃fs h a fs'⦄, Ends x fs h a fs' → ∀ m ∈ marks h, P m

theorem Leaves.bind {α β : Type} {x : OnStack α} {f : α → OnStack β} (hx : Leaves P x)
    (hf : ∀ a, Leaves P (f a)) : Leaves P (x >>= f) := by
  intro fs h b fs' hends m hm
  obtain ⟨a, mid, h₁, h₂, hfirst, hrest, rfl⟩ := ends_bind.mp hends
  rw [marks_append, List.mem_append] at hm
  exact hm.elim (hx hfirst m) (hf a hrest m)

theorem leaves_lift {α : Type} {a : Account α} (ha : a.Leaves P) :
    Leaves P (liftM a : OnStack α) := by
  intro fs h out fs' hends
  rw [(ends_lift.mp hends).1]
  exact ha

/-- What is true of the engine's own marks and of those of the sink. -/
structure Allowed (env : Environment D) (P : Mark → Prop) : Prop where
  own : ∀ m, m.hook? = none → P m
  sink : ∀ sink, env.sink = some sink → ∀ event, (sink.receive event).Leaves P

theorem Allowed.congruence (hallowed : Allowed env P) :
    Congruence env fun x _ => Leaves P x where
  bind hx hf := hx.bind hf
  frames step := by
    intro fs h a fs' hends m hm
    obtain ⟨rfl, -⟩ := (ends_of_run rfl).mp hends
    cases hm
  own ha _ := leaves_lift (ha.mono fun m hm => hallowed.own m (Mark.hook?_of_isOwn hm))
  sink event hsink := leaves_lift ((Account.leaves_mark (hallowed.own _ rfl)).bind
    (hallowed.sink _ hsink event))
  failure _ := fun _ _ _ _ hends => absurd hends not_ends_failure
  contained _ := leaves_lift (Account.leaves_log _)

/-- Whatever is requested by a root command, at any depth of nesting. -/
theorem Allowed.leaves_executeRoot (hallowed : Allowed env P) (n : Nat) (command : Object)
    (validated : Bool) : Leaves P (executeRoot env (perform env n) n command validated).run :=
  hallowed.congruence.executeRoot (Nat.le_refl n) command validated

end Marks
end Chain

namespace Job

section Stages

variable {D : Type} (registry : Registry D) (party : String) (job : Job D)

/-! ## What decides which hooks are called -/

/-- The result of the handling validation of the root command, if it gave one. -/
def validation? : Option ValidationResult := do
  let services ← (created job).value.toOption
  let installed ← (restored job services).value.toOption
  (validated registry job installed).value.toOption

/-- The handling validation ended with an error message, and the executor was told so and did not
panic. -/
def isRejected : Bool :=
  match validation? registry job with
  | some v =>
    v.messages.any (·.isError) && (job.executor.onValidationResult job.info v).panic.isNone
  | none => false

/-- The ambient values are restored once there is a scope, if there are any. -/
def restoreCalls : List HookCall :=
  match (created job).value with
  | .ok _ => job.scopeData.ambient.toList.map .restoreAmbientValues
  | .error _ => []

/-- The executor is told of the validation if it has a result. -/
def validationCalls : List HookCall := (validation? registry job).toList.map .validationResult

/-- The executor is told how the job went, unless the command was rejected. -/
def finalCalls (r : JobRun) : List HookCall :=
  if isRejected registry job then [] else [.finalResult r.result r.events]

/-- The services are disposed of if there were any. -/
def disposeCalls : List HookCall := if (created job).value.isOk then [.disposeScope] else []

/-! ## Stage by stage -/

theorem hookCalls_validated (services : D) :
    hookCalls (validated registry job services).history = [] := by
  refine hookCalls_of_leaves (Account.Leaves.mono ?_ fun _ => Mark.hook?_of_isValidating)
  exact (Validation.handling_validates _ _ _ _).1

/-- All that the sink does with the executor is to show it the event. -/
theorem leaves_sink (event : Object) : ((sink job).receive event).Leaves
    fun m => ∀ call, m.hook? = some call → call ∈ Set.range HookCall.immediateEvent := by
  have hhook : (hook (.immediateEvent event) (job.executor.onImmediateEvent job.info event)).Leaves
      fun m => ∀ call, m.hook? = some call → call ∈ Set.range HookCall.immediateEvent := by
    refine (Account.leaves_mark fun call hcall => ?_).bind (Account.leaves_act _)
    cases hcall
    exact ⟨event, rfl⟩
  refine hhook.bind ?_
  cases (hook (.immediateEvent event) (job.executor.onImmediateEvent job.info event)).value with
  | ok => exact (Account.leaves_streamed event).bind (Account.leaves_pure _)
  | error e => exact Account.leaves_pure _

/-- A chain calls no hook but the one for immediate events. -/
theorem hookCalls_executed {services : D} {h : List Happening}
    {x : Outcome ExecutionOutcome × Context D}
    (hexecuted : Yields (executed registry party job services) h x) :
    ∃ events : List Object, events.map HookCall.immediateEvent = hookCalls h := by
  obtain ⟨fs, hends, -⟩ := yields_executed.mp hexecuted
  have hallowed : Chain.Allowed (environment registry party job services)
      fun m => ∀ call, m.hook? = some call → call ∈ Set.range HookCall.immediateEvent := by
    constructor
    · intro m hm call hcall
      rw [hm] at hcall
      cases hcall
    · intro sink hsink event
      cases hsink
      exact leaves_sink job event
  have hmarks := hallowed.leaves_executeRoot _ _ _ hends
  rw [← Set.mem_range, Set.range_list_map]
  intro call hcall
  obtain ⟨m, hm, hcall⟩ := List.mem_filterMap.mp hcall
  exact hmarks m hm call hcall

/-! ## The validation that decides -/

section Decided

variable {registry party job} {services installed : D}

theorem validation?_of_validated {outcome : Outcome ValidationResult}
    (hcreated : (created job).value = .ok services)
    (hrestored : (restored job services).value = .ok installed)
    (hvalidated : (validated registry job installed).value = outcome) :
    validation? registry job = outcome.toOption := by
  unfold validation?
  rw [hcreated]
  show (restored job services).value.toOption.bind _ = _
  rw [hrestored, ← hvalidated]
  rfl

theorem validation?_of_notRestored {e : Raise} (hcreated : (created job).value = .ok services)
    (hrestored : (restored job services).value = .error e) : validation? registry job = none := by
  unfold validation?
  rw [hcreated]
  show (restored job services).value.toOption.bind _ = _
  rw [hrestored]
  rfl

theorem validation?_of_notCreated {e : Raise} (hcreated : (created job).value = .error e) :
    validation? registry job = none := by
  unfold validation?
  rw [hcreated]
  rfl

/-- What is decided by a validation that gave the result `v`. -/
theorem isRejected_of_validated {v : ValidationResult}
    (hvalidated : (validated registry job installed).value = .ok v)
    (hvalidation : validation? registry job = some v) :
    isRejected registry job = (!v.success && (told job v).value.isOk) := by
  have hfaithful := (Validation.handling_validates _ _ _ _).2 v hvalidated
  have herrors : v.messages.any (·.isError) = !v.success := by rw [hfaithful.success, Bool.not_not]
  unfold isRejected
  rw [hvalidation]
  dsimp only
  rw [herrors, told_eq]
  cases (job.executor.onValidationResult job.info v).panic <;> rfl

theorem isRejected_of_none (hvalidation : validation? registry job = none) :
    isRejected registry job = false := by
  rw [isRejected, hvalidation]

theorem restoreCalls_of_created (hcreated : (created job).value = .ok services) :
    restoreCalls job = hookCalls (restored job services).history := by
  rw [hookCalls, marks_restored, restoreCalls, hcreated]
  cases job.scopeData.ambient <;> rfl

theorem hookCalls_told {v : ValidationResult} (hvalidation : validation? registry job = some v) :
    hookCalls ((validated registry job installed).history ++ (told job v).history) =
      validationCalls registry job := by
  have htold : hookCalls (told job v).history = [.validationResult v] :=
    congrArg (List.filterMap Mark.hook?) (marks_notify _ _)
  rw [hookCalls_append, hookCalls_validated, htold, validationCalls, hvalidation]
  rfl

/-- The hooks that are called inside the scope, and whether the executor is due to be told how the
job went. -/
theorem hookCalls_course {h : List Happening} {out : Outcome JobRun} {s : JobScope D}
    (hcreated : (created job).value = .ok services)
    (hcourse : Course registry party job services h out s) : ∃ events : List Object,
      hookCalls h = restoreCalls job ++
        (validationCalls registry job ++ events.map .immediateEvent) ∧
      (events ≠ [] → ∃ v, validation? registry job = some v ∧ v.success = true) ∧
      (verdict job out s).notifyFinal = !isRejected registry job := by
  rw [restoreCalls_of_created hcreated]
  cases hcourse with
  | notRestored hrestored =>
    have hvalidation : validation? registry job = none :=
      validation?_of_notRestored hcreated hrestored
    refine ⟨[], ?_, nofun, ?_⟩
    · rw [validationCalls, hvalidation]
      exact (List.append_nil _).symm
    · rw [isRejected_of_none hvalidation]
      rfl
  | @notValidated installed e hrestored hvalidated =>
    have hvalidation : validation? registry job = none :=
      validation?_of_validated hcreated hrestored hvalidated
    refine ⟨[], ?_, nofun, ?_⟩
    · rw [hookCalls_append, hookCalls_validated, validationCalls, hvalidation]
      rfl
    · rw [isRejected_of_none hvalidation]
      rfl
  | @notTold installed v e hrestored hvalidated htold =>
    have hvalidation : validation? registry job = some v :=
      validation?_of_validated hcreated hrestored hvalidated
    refine ⟨[], ?_, nofun, ?_⟩
    · rw [hookCalls_append, hookCalls_told hvalidation, List.map_nil, List.append_nil]
    · rw [isRejected_of_validated hvalidated hvalidation, htold, Bool.and_comm]
      rfl
  | @rejected installed v hrestored hvalidated htold hfailed =>
    have hvalidation : validation? registry job = some v :=
      validation?_of_validated hcreated hrestored hvalidated
    refine ⟨[], ?_, nofun, ?_⟩
    · rw [hookCalls_append, hookCalls_told hvalidation, List.map_nil, List.append_nil]
    · rw [isRejected_of_validated hvalidated hvalidation, htold, hfailed]
      rfl
  | @executed installed v h out c hrestored hvalidated htold hsucceeded hexecuted =>
    have hvalidation : validation? registry job = some v :=
      validation?_of_validated hcreated hrestored hvalidated
    obtain ⟨events, hevents⟩ := hookCalls_executed registry party job hexecuted
    refine ⟨events, ?_, fun _ => ⟨v, hvalidation, hsucceeded⟩, ?_⟩
    · rw [hookCalls_append, hookCalls_append, hookCalls_told hvalidation, hevents]
    · rw [isRejected_of_validated hvalidated hvalidation, hsucceeded]
      cases out <;> rfl

/-- The hooks that are called in a job's run. -/
theorem hookCalls_whole {h : List Happening} {r : JobRun}
    (hwhole : Whole registry party job h r) : ∃ events : List Object,
      hookCalls h = [.createScope] ++ restoreCalls job ++ validationCalls registry job ++
        events.map .immediateEvent ++ finalCalls registry job r ++ disposeCalls job ∧
      (events ≠ [] → ∃ v, validation? registry job = some v ∧ v.success = true) := by
  have hcall : hookCalls (created job).history = [.createScope] :=
    congrArg (List.filterMap Mark.hook?) (marks_hook _ _)
  cases hwhole with
  | @notCreated e hcreated =>
    have hvalidation : validation? registry job = none := validation?_of_notCreated hcreated
    have hreporting : hookCalls (e.records job.info.token .createScope (creationFailure e) ++
        reporting job (.failed (creationFailure e) job.info.token none)) =
        finalCalls registry job (.failed (creationFailure e) job.info.token none) := by
      rw [hookCalls, Chain.marks_append, marks_raise, marks_reporting, finalCalls,
        isRejected_of_none hvalidation]
      rfl
    refine ⟨[], ?_, nofun⟩
    rw [hookCalls_append, hcall, hreporting, restoreCalls, validationCalls, disposeCalls,
      hvalidation, hcreated]
    exact (List.append_nil _).symm
  | @created services h out s hcreated hcourse =>
    obtain ⟨events, hevents, haccepted, hnotify⟩ := hookCalls_course hcreated hcourse
    have hleaving : hookCalls (leaving job out s) =
        finalCalls registry job (verdict job out s) ++ [.disposeScope] := by
      rw [hookCalls, marks_leaving, hnotify, finalCalls]
      cases isRejected registry job <;> rfl
    refine ⟨events, ?_, haccepted⟩
    rw [hookCalls_append, hookCalls_append, hcall, hevents, hleaving, disposeCalls, hcreated]
    simp [Except.isOk, Except.toBool]

end Decided

/-! ## The protocol -/

section Protocol

variable {registry party job}

/-- **The hook protocol.**  Unless its chain never ends, a job ends, and its history has two parts,
the run and the report.  All hooks are called in the run: the scope is created; the ambient values
are restored if there is a scope and there are any; the executor is told of the handling validation
if that has a result; it gets immediate events, and only after a validation that succeeded; it is
told how the job went, unless the validation failed and it was told so without panicking; and the
scope is disposed of if there is one.  The executor is told the result and the events that the
caller gets.  A host that plays back the history, from its beginning or from where it stopped,
either comes to its end and completes the ticket, or completes no ticket and stops with a later part
of the history in hand. -/
theorem hook_protocol (hchain : ∀ installed, Reached registry job installed →
      ∃ h x, Yields (executed registry party job installed) h x) :
    ∃ (before : List Happening) (r : JobRun) (events : List Object),
      Yields (run registry party job) before r ∧
      Yields (process registry party job) (before ++ closing job r) (delivered job r) ∧
      hookCalls before = [.createScope] ++ restoreCalls job ++ validationCalls registry job ++
        events.map .immediateEvent ++ finalCalls registry job r ++ disposeCalls job ∧
      hookCalls (closing job r) = [] ∧
      (events ≠ [] → ∃ v, validation? registry job = some v ∧ v.success = true) ∧
      (∀ executed, delivered job r = some executed →
        executed.result = r.result ∧ executed.events = r.events) ∧
      ∀ rest, rest <:+ before ++ closing job r →
        ∀ (host : Host D) (id ticket budget : Nat) (completion : Completion),
          host.PlayedBack id ticket completion (before ++ closing job r)
            (host.play id ticket completion rest budget) := by
  obtain ⟨before, r, hwhole⟩ := exists_whole hchain
  obtain ⟨events, hcalls, haccepted⟩ := hookCalls_whole hwhole
  refine ⟨before, r, events, yields_run.mpr hwhole, ?_, hcalls, ?_, haccepted, ?_,
    fun rest hrest host id ticket budget completion => ?_⟩
  · exact yields_process.mpr ⟨before, r, hwhole, rfl, rfl⟩
  · rw [hookCalls, marks_closing]
    rfl
  · intro executed hdelivered
    unfold delivered at hdelivered
    split at hdelivered
    · cases hdelivered
    · cases hdelivered
      exact ⟨rfl, rfl⟩
  · exact (host.playedBack_play id ticket completion rest budget).of_same rfl rfl hrest

end Protocol
end Stages

/-! ### An executor that breaks down in the end -/

namespace Breakdown

open Chain.Nested

/-- Emits an event that goes to the caller at once. -/
def order : ChainProgram CommandResult := do
  emitting 1
  return .void

def registry : Registry Unit :=
  .of [descriptor "order" .command (some order), descriptor "event" .callerOnlyImmediateEvent none]

/-- The two last hooks panic. -/
def executor : Executor Unit where
  createScope _ _ := pure ()
  restoreAmbientValues _ _ := pure ()
  onValidationResult _ _ := .silent
  onImmediateEvent _ _ := pure ()
  onFinalResult _ _ _ := ⟨[], some (.text "final")⟩
  disposeScope _ _ := ⟨[], some .other⟩

def job : Job Unit := ⟨⟨object "order" 0, .absent⟩, ⟨.null, some .empty⟩, executor, none⟩

theorem order_returns (installed : Unit) :
    ∃ h x, Yields (executed registry "local" job installed) h x := ⟨_, _, rfl⟩

theorem order_run : ∃ h r, Yields (run registry "local" job) h r ∧
    hookCalls h = [.createScope, .restoreAmbientValues .empty, .validationResult .ok,
      .immediateEvent ((object "event" 1).stamp (object "order" 0) "local"),
      .finalResult (.success .void) [], .disposeScope] :=
  ⟨_, _, rfl, rfl⟩

/-- All six hooks are called, the last one after the panic of the one before it. -/
theorem hook_protocol_breakdown :
    (∀ installed, Reached registry job installed →
      ∃ h x, Yields (executed registry "local" job installed) h x) ∧
    ∃ before r, Yields (process registry "local" job) (before ++ closing job r)
        (some (summary job r)) ∧
      hookCalls before = [.createScope, .restoreAmbientValues .empty, .validationResult .ok,
        .immediateEvent ((object "event" 1).stamp (object "order" 0) "local"),
        .finalResult (.success .void) [], .disposeScope] := by
  have hchain : ∀ installed, Reached registry job installed →
      ∃ h x, Yields (executed registry "local" job installed) h x :=
    fun installed _ => order_returns installed
  refine ⟨hchain, ?_⟩
  obtain ⟨before, r, events, hrun, hprocess, -⟩ := hook_protocol hchain
  obtain ⟨h, r', hknown, hcalls⟩ := order_run
  obtain ⟨rfl, rfl⟩ := (yields_of_run hknown).mp hrun
  exact ⟨before, r, hprocess, hcalls⟩

end Breakdown
end Job
end CommandEngine
