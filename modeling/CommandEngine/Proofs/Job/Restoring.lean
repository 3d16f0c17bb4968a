import CommandEngine.Proofs.Job.Hooks

/-!
# Which ambient values a job restores

A job restores the ambient values that it carries: these, once, and as soon as there is a scope to
restore them in.  A job without ambient values restores none, and neither does one whose scope could
not be created (`restorations_process`).

This is so for every job, also for one whose chain never ends.  Such a job has a history but no
result, so what is said of it cannot be read off its course; it is shown instead that everything
after the restoring leaves the hook alone, whether it comes to an end or not.  A run leaves the hook
alone if its parts do, and a chain has no way to a hook but its sink.
-/
namespace CommandEngine

/-- The ambient values that are restored in a step. -/
def Mark.restored? : Mark → Option AmbientValues
  | hook (.restoreAmbientValues values) => some values
  | _ => none

theorem Mark.restored?_of_hook? {m : Mark} (hm : m.hook? = none) : m.restored? = none := by
  cases m with
  | hook => cases hm
  | _ => rfl

/-- The ambient values that are restored in a history, in order. -/
def restorations (h : List Happening) : List AmbientValues :=
  (Chain.marks h).filterMap Mark.restored?

theorem restorations_append (h₁ h₂ : List Happening) :
    restorations (h₁ ++ h₂) = restorations h₁ ++ restorations h₂ := by
  rw [restorations, Chain.marks_append, List.filterMap_append]
  rfl

/-! ## Runs that leave the hook alone -/

namespace Run

variable {α β : Type} {h : List Happening}

/-- Nothing is restored, whether the run ends or not. -/
def Still (x : Run α) : Prop := Account.Leaves (fun m => m.restored? = none) x.run

theorem Still.restorations {x : Run α} (hx : Still x) :
    CommandEngine.restorations x.run.history = [] :=
  List.filterMap_eq_nil_iff.mpr hx

theorem still_of_yields {x : Run α} {a : α} (hx : Yields x h a)
    (hh : ∀ m ∈ Chain.marks h, m.restored? = none) : Still x := by
  unfold Still Account.Leaves
  rw [hx]
  exact hh

theorem still_lift {a : Account α} (ha : a.Leaves fun m => m.restored? = none) :
    Still (liftM a : Run α) :=
  still_of_yields (yields_lift.mpr ⟨rfl, rfl⟩) ha

theorem still_pure (a : α) : Still (pure a) := still_of_yields (yields_pure.mpr ⟨rfl, rfl⟩) nofun

theorem Still.bind {x : Run α} {f : α → Run β} (hx : Still x) (hf : ∀ a, Still (f a)) :
    Still (x >>= f) := by
  unfold Still
  rw [OptionT.run_bind]
  refine Account.Leaves.bind hx ?_
  cases x.run.value with
  | none => exact Account.leaves_pure _
  | some a => exact hf a

/-- What is restored in a run is restored before the part that leaves the hook alone. -/
theorem restorations_bind {x : Run α} {f : α → Run β} (hf : ∀ a, Still (f a)) :
    restorations (x >>= f).run.history = restorations x.run.history := by
  rw [OptionT.run_bind]
  show restorations (x.run.history ++ _) = _
  rw [restorations_append]
  cases x.run.value with
  | none => exact List.append_nil _
  | some a => exact (congrArg _ (hf a).restorations).trans (List.append_nil _)

/-- A run whose first part is known. -/
theorem restorations_bind_of_yields {x : Run α} {f : α → Run β} {a : α} (hx : Yields x h a) :
    restorations (x >>= f).run.history = restorations h ++ restorations (f a).run.history := by
  rw [OptionT.run_bind, hx]
  exact restorations_append _ _

end Run

namespace Job

open Run

variable {D : Type} (registry : Registry D) (party : String) (job : Job D)

/-- The sink has to do with another hook. -/
theorem restored?_give (event : Object) :
    ((sink job).give event).Leaves fun m => m.restored? = none := by
  refine Account.Leaves.bind (Account.leaves_mark rfl) ((leaves_sink job event).mono fun m hm => ?_)
  cases m with
  | hook call =>
    obtain ⟨_, rfl⟩ := hm call rfl
    rfl
  | _ => rfl

/-- All steps of a chain leave the hook alone. -/
theorem still_congruence (services : D) :
    Chain.Congruence (environment registry party job services)
      fun x _ => ∀ fs, Still (x.run fs) where
  bind hx hf := fun fs => (hx fs).bind fun x => hf x.1 x.2
  frames step := fun fs => still_pure (step fs)
  own ha _ := fun fs =>
    (still_lift (ha.mono fun _ hm => Mark.restored?_of_hook? (Mark.hook?_of_isOwn hm))).bind
      fun a => still_pure (a, fs)
  sink event hsink := by
    cases hsink
    exact fun fs => (still_lift (restored?_give job event)).bind fun out => still_pure (out, fs)
  failure _ := fun fs => nofun
  contained _ := fun fs => (still_lift (Account.leaves_log _)).bind fun a => still_pure (a, fs)

theorem still_executed (services : D) : Still (executed registry party job services) := by
  have hchain := (still_congruence registry party job services).executeRoot
    (Nat.le_refl Chain.nestingLimit) job.info.command true
  exact (hchain []).bind fun x => still_pure _

/-! ## Inside the scope -/

/-- A computation in the scope that leaves the hook alone, whatever the scope is. -/
def Spares {α : Type} (x : InScope D α) : Prop := ∀ s, Still (x.run.run s)

theorem Spares.bind {α β : Type} {x : InScope D α} {f : α → InScope D β} (hx : Spares x)
    (hf : ∀ a, Spares (f a)) : Spares (x >>= f) := by
  intro s
  rw [ExceptT.run_bind, StateT.run_bind]
  refine (hx s).bind fun y => ?_
  cases y.1 with
  | ok a => exact hf a y.2
  | error e => exact still_pure _

theorem spares_outcome {α : Type} (outcome : Outcome α) :
    Spares (ExceptT.mk (pure outcome) : InScope D α) := fun s => still_pure (outcome, s)

theorem spares_lift {α : Type} {a : Account α} (ha : a.Leaves fun m => m.restored? = none) :
    Spares (liftM a : InScope D α) :=
  fun s => ((still_lift ha).bind fun value => still_pure (value, s)).bind fun _ =>
    still_pure _

theorem spares_run {α : Type} {x : Run α} (hx : Still x) : Spares (liftM x : InScope D α) :=
  fun s => (hx.bind fun value => still_pure (value, s)).bind fun _ => still_pure _

theorem spares_get : Spares (get : InScope D (JobScope D)) := fun _ => still_pure _

theorem spares_pure {α : Type} (a : α) : Spares (pure a : InScope D α) :=
  fun _ => still_pure _

theorem restored?_notify {call : HookCall} (n : Notice)
    (hcall : (Mark.hook call).restored? = none) :
    (notify call n).Leaves fun m => m.restored? = none := by
  intro m hm
  rw [marks_notify, List.mem_singleton] at hm
  rw [hm]
  exact hcall

theorem spares_validate : Spares (validate registry job) := by
  refine spares_get.bind fun s => ?_
  refine (spares_lift ?_).bind fun outcome => (spares_outcome outcome).bind fun result => ?_
  · exact (Validation.handling_validates _ _ _ _).1.mono fun _ hm =>
      Mark.restored?_of_hook? (Mark.hook?_of_isValidating hm)
  refine (spares_lift (restored?_notify _ rfl)).bind fun told => (spares_outcome told).bind ?_
  exact fun _ s => still_pure _

/-- What is restored in the scope are the ambient values of the job. -/
theorem restorations_runInScope (services : D) :
    restorations ((runInScope registry party job).run.run ⟨services, none⟩).run.history =
      job.scopeData.ambient.toList := by
  have hrest : ∀ _ : Unit, Spares (do
      let result ← validate registry job
      if result.success then
        let services := (← get).services
        let context : Context D := ⟨environment registry party job services, []⟩
        let executed ← (liftM (context.executeValidated job.info.command) :
          InScope D (Outcome ExecutionOutcome × Context D))
        let outcome ← (ExceptT.mk (pure executed.1) : InScope D ExecutionOutcome)
        return .succeeded outcome result
      else
        return .rejected result : InScope D JobRun) := by
    refine fun _ => (spares_validate registry job).bind fun result => ?_
    split
    · refine spares_get.bind fun s => ?_
      refine (spares_run (still_executed registry party job s.services)).bind fun x => ?_
      exact (spares_outcome x.1).bind fun _ => spares_pure _
    · exact spares_pure _
  have hrestored : restorations (restored job services).history =
      job.scopeData.ambient.toList := by
    rw [restorations, marks_restored]
    cases job.scopeData.ambient <;> rfl
  have hrestore : Leads (restore job).run ⟨services, none⟩ _ _ _ := leads_restore
  unfold runInScope
  rw [ExceptT.run_bind, StateT.run_bind, restorations_bind_of_yields hrestore, hrestored]
  refine (congrArg _ (Still.restorations ?_)).trans (List.append_nil _)
  cases (restored job services).value with
  | ok installed => exact hrest () _
  | error e => exact still_pure _

/-! ## Around the scope -/

theorem still_reporting {r : JobRun} :
    ∀ m ∈ Chain.marks (reporting job r), m.restored? = none := by
  rw [marks_reporting]
  exact List.forall_mem_singleton.mpr rfl

theorem still_leaving {out : Outcome JobRun} {s : JobScope D} :
    ∀ m ∈ Chain.marks (leaving job out s), m.restored? = none := by
  have hdisposed : (Mark.hook .disposeScope).restored? = none := rfl
  rw [marks_leaving, List.forall_mem_append]
  refine ⟨?_, List.forall_mem_singleton.mpr hdisposed⟩
  split
  · exact List.forall_mem_singleton.mpr rfl
  · nofun

theorem restorations_run :
    restorations (run registry party job).run.history =
      match (created job).value with
      | .ok _ => job.scopeData.ambient.toList
      | .error _ => [] := by
  have hcreation : Yields (liftM (hook .createScope
      (job.executor.createScope job.info job.scopeData)) : Run (Outcome D))
      (created job).history (created job).value := yields_lift.mpr ⟨rfl, rfl⟩
  have hnone : restorations (created job).history = [] :=
    congrArg (List.filterMap Mark.restored?) (marks_hook _ _)
  unfold run
  dsimp only
  cases hcreated : (created job).value with
  | error e =>
    have hrecord : restorations (e.panicRecord job.info.token .createScope) = [] := by
      cases e <;> rfl
    rw [hcreated] at hcreation
    refine (restorations_bind_of_yields (yields_guarded_error hcreation)).trans ?_
    rw [restorations_append, hnone, hrecord]
    exact (still_of_yields (yields_notCreated.mpr ⟨rfl, rfl⟩) (still_reporting job)).restorations
  | ok services =>
    rw [hcreated] at hcreation
    refine (restorations_bind_of_yields (yields_guarded_ok hcreation)).trans ?_
    rw [hnone, List.nil_append]
    refine (restorations_bind fun x => still_of_yields (yields_leaving.mpr ⟨rfl, rfl⟩)
      (still_leaving job)).trans ?_
    exact restorations_runInScope registry party job services

/-- **A job restores the ambient values that it carries**, once its scope was created, and no
others, whether it ends or not. -/
theorem restorations_process :
    restorations (process registry party job).run.history =
      match (created job).value with
      | .ok _ => job.scopeData.ambient.toList
      | .error _ => [] := by
  have hclosing : ∀ r, ∀ m ∈ Chain.marks (closing job r), m.restored? = none := by
    intro r
    rw [marks_closing]
    nofun
  refine Eq.trans ?_ (restorations_run registry party job)
  exact restorations_bind fun r =>
    still_of_yields (yields_reporting.mpr ⟨rfl, rfl⟩) (hclosing r)

end Job
end CommandEngine
