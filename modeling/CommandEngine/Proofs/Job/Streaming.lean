import CommandEngine.Proofs.Chain.Forest
import CommandEngine.Proofs.Job.Hooks

/-!
# What a job streams

The sink of a job shows an event to the executor first, and what the hook ends in is what the sink
ends in; an event that the hook took is streamed right behind the call, and no other
(`given_iff`).  Nothing else streams: application code has no way to the stream, and the chain has
none but its sink.  So the stream of a job are the events that the hook was called with and took, in
the order of the calls, and these are the events that its chain gave to the sink
(`relays_process`).

Like the restoring of ambient values, this is so of every job, also of one whose chain never ends.
It is therefore shown of the parts of a history (`Relays`), and of a run whether it ends or not.
-/
namespace CommandEngine

/-- The immediate event that the executor's hook is called with in a step. -/
def Mark.shown? : Mark → Option Object
  | hook (.immediateEvent event) => some event
  | _ => none

/-- The immediate events that the executor's hook was called with in a history, in order. -/
def hookEvents (h : List Happening) : List Object := (Chain.marks h).filterMap Mark.shown?

theorem hookEvents_append (h₁ h₂ : List Happening) :
    hookEvents (h₁ ++ h₂) = hookEvents h₁ ++ hookEvents h₂ := by
  rw [hookEvents, Chain.marks_append, List.filterMap_append]
  rfl

/-- In a history the executor's hook was called with the events that were given to the sink, and
those that it took were streamed. -/
structure Relays (takes : Object → Bool) (h : List Happening) : Prop where
  shown : hookEvents h = Chain.sinkCalls h
  streamed : streamed h = (hookEvents h).filter takes

section Relays

variable {takes : Object → Bool} {h h₁ h₂ : List Happening}

theorem Relays.append (hfirst : Relays takes h₁) (hrest : Relays takes h₂) :
    Relays takes (h₁ ++ h₂) where
  shown := by rw [hookEvents_append, Chain.sinkCalls_append, hfirst.shown, hrest.shown]
  streamed := by
    rw [streamed_append, hookEvents_append, List.filter_append, hfirst.streamed, hrest.streamed]

/-- What has nothing to do with immediate events. -/
theorem relays_of_marks (hunheard : CommandEngine.streamed h = [])
    (hmarks : ∀ m ∈ Chain.marks h, m.sunk? = none ∧ m.shown? = none) : Relays takes h := by
  have hgiven : Chain.sinkCalls h = [] := List.filterMap_eq_nil_iff.mpr fun m hm => (hmarks m hm).1
  have hshown : hookEvents h = [] := List.filterMap_eq_nil_iff.mpr fun m hm => (hmarks m hm).2
  exact ⟨hshown.trans hgiven.symm, by rw [hunheard, hshown]; rfl⟩

theorem relays_nil : Relays takes [] := ⟨rfl, rfl⟩

theorem relays_log (e : LogEvent) : Relays takes [.log e] := ⟨rfl, rfl⟩

/-- What the engine does by itself. -/
theorem relays_of_plain {α : Type} {a : Account α} (ha : a.Leaves fun m => m.isOwn)
    (hplain : a.Plain) : Relays takes a.history := by
  refine relays_of_marks hplain.unheard fun m hm => ?_
  have hown : m.isOwn = true := ha m hm
  cases m with
  | hook | sunk => cases hown
  | _ => exact ⟨rfl, rfl⟩

end Relays

/-! ## Runs -/

namespace Run

variable {takes : Object → Bool} {α β : Type}

/-- The history of the run relays, whether the run ends or not. -/
def Conveys (takes : Object → Bool) (x : Run α) : Prop := Relays takes x.run.history

theorem conveys_of_yields {x : Run α} {h : List Happening} {a : α} (hx : Yields x h a)
    (hh : Relays takes h) : Conveys takes x := by
  rw [Conveys, hx]
  exact hh

theorem conveys_lift {a : Account α} (ha : Relays takes a.history) :
    Conveys takes (liftM a : Run α) :=
  conveys_of_yields (yields_lift.mpr ⟨rfl, rfl⟩) ha

theorem conveys_pure (a : α) : Conveys takes (pure a : Run α) := relays_nil

theorem conveys_log (e : LogEvent) : Conveys takes (liftM (Account.log e) : Run Unit) :=
  conveys_lift (relays_log e)

theorem Conveys.bind {x : Run α} {f : α → Run β} (hx : Conveys takes x)
    (hf : ∀ a, Conveys takes (f a)) : Conveys takes (x >>= f) := by
  unfold Conveys
  rw [OptionT.run_bind]
  refine Relays.append hx ?_
  cases x.run.value with
  | none => exact relays_nil
  | some a => exact hf a

end Run

namespace Job

open Run

variable {D : Type} (registry : Registry D) (party : String) (job : Job D)

/-- The executor's hook returns. -/
def takes (event : Object) : Bool := (job.executor.onImmediateEvent job.info event).outcome.isOk

/-! ## The sink -/

/-- What happens to an event that is given to the sink: the executor's hook is called with it, and if
the hook takes the event it is streamed, once the hook is done. -/
def offering (event : Object) : List Happening :=
  .mark (.sunk event) :: .mark (.hook (.immediateEvent event)) ::
    ((job.executor.onImmediateEvent job.info event).signs.map .sign ++
      if job.takes event then [.streamed event] else [])

theorem give_eq (event : Object) : (sink job).give event =
    ⟨offering job event, (job.executor.onImmediateEvent job.info event).outcome⟩ := by
  unfold Sink.give offering takes sink hook
  dsimp only
  generalize job.executor.onImmediateEvent job.info event = a
  obtain ⟨signs, out⟩ := a
  cases out with
  | error e => rfl
  | ok => rfl

/-- **The emitter gets what the hook ended in.** -/
theorem given_iff {services : D} {event : Object} {h : List Happening} {out : Outcome Unit} :
    Chain.Given (environment registry party job services) event h out ↔
      h = offering job event ∧ out = (job.executor.onImmediateEvent job.info event).outcome := by
  have hgive := give_eq job event
  constructor
  · intro hgiven
    cases hgiven with
    | nobody hnone => cases hnone
    | sunk hsink =>
      cases hsink
      exact ⟨congrArg Traced.history hgive, congrArg Traced.value hgive⟩
  · rintro ⟨rfl, rfl⟩
    have hsunk : Chain.Given (environment registry party job services) event
        ((sink job).give event).history ((sink job).give event).value := .sunk rfl
    rwa [hgive] at hsunk

theorem offering_eq (event : Object) : offering job event =
    [.mark (.sunk event), .mark (.hook (.immediateEvent event))] ++
      ((Account.act (job.executor.onImmediateEvent job.info event)).history ++
        if job.takes event then [.streamed event] else []) := rfl

theorem marks_offering (event : Object) :
    Chain.marks (offering job event) = [.sunk event, .hook (.immediateEvent event)] := by
  rw [offering_eq, Chain.marks_append, Chain.marks_append, marks_act]
  split <;> rfl

/-- **An event that the hook does not take is not streamed.** -/
theorem streamed_offering (event : Object) :
    streamed (offering job event) = if job.takes event then [event] else [] := by
  have hunheard := (Account.plain_act (job.executor.onImmediateEvent job.info event)).unheard
  rw [offering_eq, streamed_append, streamed_append, hunheard]
  split <;> rfl

theorem relays_give (event : Object) : Relays job.takes ((sink job).give event).history := by
  have hshown : hookEvents (offering job event) = [event] := by
    rw [hookEvents, marks_offering]
    rfl
  rw [give_eq]
  constructor
  · rw [hshown, Chain.sinkCalls, marks_offering]
    rfl
  · rw [hshown, streamed_offering, List.filter_cons]
    rfl

/-- How the emission of an immediate event ends, which is `stamped` with the stamp of the command on
top. -/
inductive Presented (services : D) (answer : (q : ContextRequest) → OnStack q.Reply)
    (stamped : Object) (fs : List Frame) : List Happening → Outcome Unit → List Frame → Prop where
  /-- A handler of the event does not return, and the executor is not shown the event. -/
  | raised {h : List Happening} {e : Raise} {fs' : List Frame}
    (hdispatch : Chain.Ends (Chain.dispatch (environment registry party job services) answer
      stamped).run fs h (.error e) fs') : Presented services answer stamped fs h (.error e) fs'
  /-- The event has no handlers. -/
  | offered : Presented services answer stamped fs (offering job stamped)
      (job.executor.onImmediateEvent job.info stamped).outcome fs
  /-- All its handlers returned. -/
  | dispatched {before : List Happening} {fs' : List Frame}
    (hdispatch : Chain.Ends (Chain.dispatch (environment registry party job services) answer
      stamped).run fs before (.ok ()) fs') :
    Presented services answer stamped fs (before ++ offering job stamped)
      (job.executor.onImmediateEvent job.info stamped).outcome fs'

/-- **The emission of an immediate event.**  Unless a handler of it does not return, it ends with
what happens to an event that is given to the sink, and in what the executor's hook ended in. -/
theorem ends_emit_immediate {services : D} {answer : (q : ContextRequest) → OnStack q.Reply}
    {event : Object} {top : Frame} {d : Descriptor D} {fs fs' : List Frame} {h : List Happening}
    {out : Outcome Unit} (htop : fs.getLast? = some top)
    (hd : registry.descriptorOf? (event.stamp top.command party) = some d)
    (hkind : d.kind.isImmediate = true)
    (hends : Chain.Ends (Chain.emit (environment registry party job services) answer event).run
      fs h out fs') :
    job.Presented registry party services answer (event.stamp top.command party)
      fs h out fs' := by
  have hevent : d.kind.isEvent = true := by
    cases hknown : d.kind <;> rw [hknown] at hkind <;> first | rfl | cases hkind
  cases Chain.ends_emit.mp hends with
  | outside hnone =>
    rw [hnone] at htop
    cases htop
  | unknown htop' hunknown =>
    cases htop.symm.trans htop'
    cases hd.symm.trans hunknown
  | command htop' hd' hcommand =>
    cases htop.symm.trans htop'
    cases hd.symm.trans hd'
    rw [Kind.isEvent, hcommand] at hevent
    cases hevent
  | queued htop' hstamped hd' hwaiting =>
    cases htop.symm.trans htop'
    cases hd.symm.trans (hstamped ▸ hd')
    rcases hwaiting with hwaiting | hwaiting <;> rw [hwaiting] at hkind <;> cases hkind
  | given htop' hstamped _ _ hgiven =>
    cases htop.symm.trans htop'
    obtain rfl := hstamped
    obtain ⟨rfl, rfl⟩ := (given_iff registry party job).mp hgiven
    exact .offered
  | handled htop' hstamped hd' _ _ hhandling hgiven =>
    cases htop.symm.trans htop'
    obtain rfl := hstamped
    cases hd.symm.trans hd'
    obtain ⟨rfl, rfl⟩ := (given_iff registry party job).mp hgiven
    exact .dispatched ((Chain.ends_dispatch hd hevent).mpr ⟨_, hhandling, rfl⟩)
  | stopped htop' hstamped hd' _ _ hhandling =>
    cases htop.symm.trans htop'
    obtain rfl := hstamped
    cases hd.symm.trans hd'
    exact .raised ((Chain.ends_dispatch hd hevent).mpr ⟨_, hhandling, rfl⟩)

/-! ## The chain -/

/-- All steps of a chain relay: whatever the engine does by itself is plain. -/
theorem conveys_congruence (services : D) :
    Chain.Congruence (environment registry party job services)
      fun x _ => ∀ fs, Conveys job.takes (x.run fs) where
  bind hx hf := fun fs => (hx fs).bind fun x => hf x.1 x.2
  frames step := fun fs => conveys_pure (step fs)
  own ha hplain := fun fs =>
    (conveys_lift (relays_of_plain ha hplain)).bind fun a => conveys_pure (a, fs)
  sink event hsink := by
    cases hsink
    exact fun fs => (conveys_lift (relays_give job event)).bind fun out => conveys_pure (out, fs)
  failure _ := fun fs => relays_nil
  contained _ := fun fs => (conveys_log _).bind fun a => conveys_pure (a, fs)

theorem conveys_executed (services : D) :
    Conveys job.takes (executed registry party job services) := by
  have hchain := (conveys_congruence registry party job services).executeRoot
    (Nat.le_refl Chain.nestingLimit) job.info.command true
  exact (hchain []).bind fun x => conveys_pure _

/-! ## Inside the scope -/

/-- A computation in the scope that relays, whatever the scope is. -/
def Forwards {α : Type} (x : InScope D α) : Prop := ∀ s, Conveys job.takes (x.run.run s)

section Scope

variable {job} {α β : Type}

theorem Forwards.bind {x : InScope D α} {f : α → InScope D β} (hx : Forwards job x)
    (hf : ∀ a, Forwards job (f a)) : Forwards job (x >>= f) := by
  intro s
  rw [ExceptT.run_bind, StateT.run_bind]
  refine (hx s).bind fun y => ?_
  cases y.1 with
  | ok a => exact hf a y.2
  | error e => exact conveys_pure _

theorem forwards_outcome (outcome : Outcome α) :
    Forwards job (ExceptT.mk (pure outcome) : InScope D α) := fun s => conveys_pure (outcome, s)

theorem forwards_pure (a : α) : Forwards job (pure a : InScope D α) := fun _ => conveys_pure _

theorem forwards_throw (e : Raise) : Forwards job (throw e : InScope D α) := fun _ => conveys_pure _

theorem forwards_get : Forwards job (get : InScope D (JobScope D)) := fun _ => conveys_pure _

theorem forwards_modify (f : JobScope D → JobScope D) :
    Forwards job (modify f : InScope D Unit) := fun _ => conveys_pure _

theorem forwards_run {x : Run α} (hx : Conveys job.takes x) :
    Forwards job (liftM x : InScope D α) :=
  fun s => (hx.bind fun value => conveys_pure (value, s)).bind fun _ => conveys_pure _

theorem forwards_lift {a : Account α} (ha : Relays job.takes a.history) :
    Forwards job (liftM a : InScope D α) := forwards_run (conveys_lift ha)

end Scope

/-- The hooks that are called around the chain are called with no immediate event. -/
theorem relays_hook {α : Type} {call : HookCall} (hcall : (Mark.hook call).shown? = none)
    (a : Act α) : Relays job.takes (hook call a).history := by
  refine relays_of_marks ((Account.plain_mark _).bind (Account.plain_act a)).unheard ?_
  rw [marks_hook]
  exact List.forall_mem_singleton.mpr ⟨rfl, hcall⟩

theorem relays_notify {call : HookCall} (hcall : (Mark.hook call).shown? = none) (n : Notice) :
    Relays job.takes (notify call n).history := by
  refine relays_of_marks ((Account.plain_mark _).bind (Account.plain_notice n)).unheard ?_
  rw [marks_notify]
  exact List.forall_mem_singleton.mpr ⟨rfl, hcall⟩

theorem forwards_restore : Forwards job (restore job) := by
  unfold restore
  cases job.scopeData.ambient with
  | none => exact forwards_pure _
  | some values =>
    refine forwards_get.bind fun s => ?_
    refine (forwards_lift (relays_hook job rfl _)).bind fun outcome => ?_
    rcases outcome with (f | p) | services
    · exact forwards_throw _
    · exact forwards_throw _
    · exact forwards_modify _

theorem forwards_validate : Forwards job (validate registry job) := by
  refine forwards_get.bind fun s => ?_
  refine (forwards_lift ?_).bind fun outcome => (forwards_outcome outcome).bind fun result => ?_
  · have hvalidates := (Validation.handling_validates registry s.services job.info.token
      job.info.command).1
    exact relays_of_plain (hvalidates.mono fun _ => Mark.isOwn_of_isValidating)
      Validation.plain_handling
  refine (forwards_lift (relays_notify job rfl _)).bind fun told => ?_
  exact (forwards_outcome told).bind fun _ => (forwards_modify _).bind fun _ => forwards_pure _

theorem forwards_runInScope : Forwards job (runInScope registry party job) := by
  refine (forwards_restore job).bind fun _ => (forwards_validate registry job).bind fun result => ?_
  split
  · refine forwards_get.bind fun s => ?_
    refine (forwards_run (conveys_executed registry party job s.services)).bind fun x => ?_
    exact (forwards_outcome x.1).bind fun _ => forwards_pure _
  · exact forwards_pure _

/-! ## Around the scope -/

theorem conveys_guarded {α : Type} {token : Token} {stage : JobStage} {x : Run (Outcome α)}
    (hx : Conveys job.takes x) : Conveys job.takes (guarded token stage x) := by
  refine hx.bind fun outcome => ?_
  rcases outcome with (f | p) | a
  · exact conveys_pure _
  · exact (conveys_log _).bind fun _ => conveys_pure _
  · exact conveys_pure _

theorem relays_records {α : Type} (token : Token) (stage : JobStage) (out : Outcome α) :
    Relays job.takes (Outcome.records token stage out) := by
  rcases out with (f | p) | a <;> exact ⟨rfl, rfl⟩

theorem relays_reporting (r : JobRun) : Relays job.takes (reporting job r) :=
  (relays_notify job rfl _).append (relays_records job _ _ _)

theorem relays_leaving (out : Outcome JobRun) (s : JobScope D) :
    Relays job.takes (leaving job out s) := by
  have hdisposing : Relays job.takes (disposing job s.services) :=
    (relays_notify job rfl _).append (relays_records job _ _ _)
  refine (relays_records job _ _ _).append (Relays.append ?_ hdisposing)
  split
  · exact relays_reporting job _
  · exact relays_nil

theorem relays_closing (r : JobRun) : Relays job.takes (closing job r) := by
  have hreported : Relays job.takes (reported job r).history := by
    unfold reported
    cases job.report with
    | none => exact relays_nil
    | some report =>
      refine relays_of_marks (Account.plain_notice _).unheard ?_
      rw [marks_notice]
      exact nofun
  refine Relays.append ?_ (hreported.append ?_)
  · split <;> exact ⟨rfl, rfl⟩
  · split <;> exact ⟨rfl, rfl⟩

theorem conveys_run : Conveys job.takes (run registry party job) := by
  refine (conveys_guarded job (conveys_lift (relays_hook job rfl _))).bind fun creation => ?_
  cases creation with
  | error f =>
    exact conveys_of_yields (yields_notCreated.mpr ⟨rfl, rfl⟩)
      ((relays_log _).append (relays_reporting job _))
  | ok services =>
    refine Conveys.bind (forwards_runInScope registry party job ⟨services, none⟩) fun x => ?_
    exact conveys_of_yields (yields_leaving.mpr ⟨rfl, rfl⟩) (relays_leaving job x.1 x.2)

/-- **The stream of a job**: the executor's hook is called with the events that are given to the
sink, and those that it takes are streamed, in the order of these calls, whether the job ends or
not. -/
theorem relays_process : Relays job.takes (process registry party job).run.history :=
  (conveys_run registry party job).bind fun r =>
    conveys_of_yields (yields_reporting.mpr ⟨rfl, rfl⟩) (relays_closing job r)

end Job
end CommandEngine
