import CommandEngine.Proofs.Chain.Forest

/-!
# The deliveries of a chain

The history of a run tells of every event that went to the sink and of every event that was put on a
frame.  The two have nothing to do with each other.  The calls of the sink are the emissions whose
dispatch returned, in the order of their ends, so an event that was emitted while another one was
handled gets there before it.  What is put on frames waits, and so does all that is found on them
later (`Carries`).  What happens afterwards takes back no call of the sink, for nothing is said here
about how a run ends.

Sequences carry what their parts carry, so the proof follows the operations, and what a program
carries is what the answers to its requests do.  The induction is on the depth of nesting.
-/
namespace CommandEngine
namespace Chain

/-! ## What a run carries -/

/-- What the history of a run tells of events, given its emissions: which events the sink was given,
what was put on frames, and that nothing else came to be held.  `before` and `after` are the events
that are held before and after the run. -/
structure Carries {D : Type} (env : Environment D) (before : List Object) (h : List Happening)
    (after : List Object) (es : List Emission) : Prop where
  sunk : sinkCalls h = if env.sink.isSome then Emission.delivered es else []
  immediate : ∀ e ∈ Emission.endsAll es, env.IsImmediate e.1
  queued : ∀ event ∈ queuedEvents h, env.IsWaiting event
  held : ∀ event ∈ after, event ∈ before ∨ event ∈ queuedEvents h

section Carries
variable {D : Type} {env : Environment D} {before mid after : List Object}
  {h h₁ h₂ : List Happening} {es es₁ es₂ : List Emission}

theorem carries_idle (hidle : Idle h) (hheld : ∀ event ∈ after, event ∈ before) :
    Carries env before h after [] where
  sunk := by
    rw [hidle.sinkCalls]
    exact (ite_self _).symm
  immediate := nofun
  queued := by
    rw [hidle.queuedEvents]
    exact nofun
  held event hevent := .inl (hheld event hevent)

theorem Carries.append (hfirst : Carries env before h₁ mid es₁)
    (hrest : Carries env mid h₂ after es₂) : Carries env before (h₁ ++ h₂) after (es₁ ++ es₂) where
  sunk := by
    rw [sinkCalls_append, hfirst.sunk, hrest.sunk, Emission.delivered_append]
    split
    · rfl
    · rfl
  immediate := by
    rw [Emission.endsAll_append, List.forall_mem_append]
    exact ⟨hfirst.immediate, hrest.immediate⟩
  queued := by
    rw [queuedEvents_append, List.forall_mem_append]
    exact ⟨hfirst.queued, hrest.queued⟩
  held event hevent := by
    rw [queuedEvents_append, List.mem_append]
    rcases hrest.held event hevent with hmid | hlate
    · exact (hfirst.held event hmid).imp_right .inl
    · exact .inr (.inr hlate)

/-- Steps before and after that move no event. -/
theorem Carries.behind (hrest : Carries env before h₂ after es) (hidle : Idle h₁) :
    Carries env before (h₁ ++ h₂) after es :=
  (carries_idle hidle fun _ => id).append hrest

theorem Carries.ahead (hfirst : Carries env before h₁ mid es) (hidle : Idle h₂)
    (hheld : ∀ event ∈ after, event ∈ mid) : Carries env before (h₁ ++ h₂) after es :=
  List.append_nil es ▸ hfirst.append (carries_idle hidle hheld)

/-- Events may have been held before that the run has nothing to do with. -/
theorem Carries.mono {before' after' : List Object} (hcarries : Carries env before h after es)
    (hbefore : ∀ event ∈ before, event ∈ before')
    (hafter : ∀ event ∈ after', event ∈ after ∨ event ∈ before') :
    Carries env before' h after' es :=
  ⟨hcarries.sunk, hcarries.immediate, hcarries.queued, fun event hevent =>
    (hafter event hevent).elim (fun hheld => (hcarries.held event hheld).imp_left (hbefore event))
      .inl⟩

theorem carries_queued {fs : List Frame} {event : Object} (hwaiting : env.IsWaiting event) :
    Carries env (Chain.held fs) [.mark (.queued event)] (Chain.held (joinTop [event] fs)) [] where
  sunk := (ite_self _).symm
  immediate := nofun
  queued := List.forall_mem_singleton.mpr hwaiting
  held _ := held_joinTop

/-- The sink is given immediate events only. -/
theorem Carries.sunk_immediate (hcarries : Carries env before h after es) :
    ∀ event ∈ sinkCalls h, env.IsImmediate event := by
  rw [hcarries.sunk]
  split
  · intro event hevent
    obtain ⟨⟨event', returned⟩, hmem, hsome⟩ := List.mem_filterMap.mp hevent
    cases returned with
    | false => cases hsome
    | true =>
      cases hsome
      exact hcarries.immediate _ hmem
  · exact nofun

/-- What is held after a run waits, if this is so of what was held before. -/
theorem Carries.waiting (hcarries : Carries env before h after es)
    (hbefore : ∀ event ∈ before, env.IsWaiting event) : ∀ event ∈ after, env.IsWaiting event :=
  fun event hevent => (hcarries.held event hevent).elim (hbefore event) (hcarries.queued event)

/-- An event that is given to the sink, after what its dispatch carried. -/
theorem Carries.given {event : Object} {out : Outcome Unit}
    (hduring : Carries env before h₁ after es) (himmediate : env.IsImmediate event)
    (hgiven : Given env event h₂ out) :
    Carries env before (h₁ ++ h₂) after [.of event es true] where
  sunk := by
    rw [sinkCalls_append, hduring.sunk, hgiven.sinkCalls, Emission.delivered_returned]
    split
    · rfl
    · rfl
  immediate := by
    rw [Emission.endsAll_singleton, List.forall_mem_append, List.forall_mem_singleton]
    exact ⟨hduring.immediate, himmediate⟩
  queued := by
    rw [queuedEvents_append, hgiven.queuedEvents, List.append_nil]
    exact hduring.queued
  held := by
    rw [queuedEvents_append, hgiven.queuedEvents, List.append_nil]
    exact hduring.held

/-- An event whose dispatch did not return is not given to the sink. -/
theorem Carries.stopped {event : Object} (hduring : Carries env before h after es)
    (himmediate : env.IsImmediate event) : Carries env before h after [.of event es false] where
  sunk := by rw [hduring.sunk, Emission.delivered_stopped]
  immediate := by
    rw [Emission.endsAll_singleton, List.forall_mem_append, List.forall_mem_singleton]
    exact ⟨hduring.immediate, himmediate⟩
  queued := hduring.queued
  held := hduring.held

/-- All runs of a computation carry its emissions. -/
def Carried {α : Type} (env : Environment D) (x : OnStack α) (emitted : Emissions) : Prop :=
  ∀ ⦃fs h a fs'⦄, Ends x fs h a fs' → Carries env (held fs) h (held fs') (emitted fs)

end Carries

/-! ## Sequences carry what their parts carry -/

section Sequences
variable {D α β : Type} {env : Environment D} {fs fs' mid : List Frame} {h : List Happening}

theorem Emissions.andThen_of_ends {x : OnStack α} {first : Emissions} {next : α → Emissions} {a : α}
    (hends : Ends x fs h a mid) : Emissions.andThen x first next fs = first fs ++ next a mid := by
  rw [andThen, show (x.run fs).run.value = some (a, mid) from congrArg Traced.value hends]

theorem Emissions.andOk_of_ok {x : Chain α} {first : Emissions} {next : α → Emissions} {a : α}
    (hends : Ends x.run fs h (.ok a) mid) :
    Emissions.andOk x first next fs = first fs ++ next a mid :=
  andThen_of_ends hends

theorem Emissions.andOk_of_error {x : Chain α} {first : Emissions} {next : α → Emissions}
    {e : Raise} (hends : Ends x.run fs h (.error e) mid) : Emissions.andOk x first next fs = first fs :=
  (andThen_of_ends hends).trans (List.append_nil _)

theorem Emissions.returns_of_ok {x : Chain α} {a : α} (hends : Ends x.run fs h (.ok a) mid) :
    Emissions.returns x fs = true := by
  rw [returns, show (x.run.run fs).run.value = some (.ok a, mid) from congrArg Traced.value hends]

theorem Emissions.returns_of_error {x : Chain α} {e : Raise}
    (hends : Ends x.run fs h (.error e) mid) : Emissions.returns x fs = false := by
  rw [returns, show (x.run.run fs).run.value = some (.error e, mid) from
    congrArg Traced.value hends]

theorem carried_nothing {x : OnStack α}
    (hx : ∀ {fs h a fs'}, Ends x fs h a fs' → Idle h ∧ held fs' = held fs) :
    Carried env x .nothing := by
  intro fs h a fs' hends
  obtain ⟨hidle, hheld⟩ := hx hends
  exact carries_idle hidle fun event hevent => hheld ▸ hevent

theorem carried_andThen {x : OnStack α} {f : α → OnStack β} {first : Emissions}
    {next : α → Emissions} (hx : Carried env x first) (hf : ∀ a, Carried env (f a) (next a)) :
    Carried env (x >>= f) (.andThen x first next) := by
  intro fs h b fs' hends
  obtain ⟨a, mid, h₁, h₂, hfirst, hrest, rfl⟩ := ends_bind.mp hends
  rw [Emissions.andThen_of_ends hfirst]
  exact (hx hfirst).append (hf a hrest)

theorem carried_andOk {x : Chain α} {f : α → Chain β} {first : Emissions} {next : α → Emissions}
    (hx : Carried env x.run first) (hf : ∀ a, Carried env (f a).run (next a)) :
    Carried env (x >>= f).run (.andOk x first next) := by
  refine carried_andThen hx fun outcome => ?_
  cases outcome with
  | ok a => exact hf a
  | error e =>
    refine carried_nothing fun hends => ?_
    obtain ⟨rfl, -, rfl⟩ := ends_pure.mp hends
    exact ⟨idle_nil, rfl⟩

theorem carried_bind_pure {x : Chain α} {f : α → β} {emitted : Emissions}
    (hx : Carried env x.run emitted) : Carried env (x >>= fun a => pure (f a)).run emitted := by
  intro fs h out fs' hends
  obtain ⟨inner, hinner, -⟩ := ends_bind_pure.mp hends
  exact hx hinner

theorem carried_outcome (outcome : Outcome α) : Carried env (ofOutcome outcome).run .nothing := by
  refine carried_nothing fun hends => ?_
  obtain ⟨rfl, -, rfl⟩ := ends_ofOutcome.mp hends
  exact ⟨idle_nil, rfl⟩

theorem carried_throw_bind (e : Raise) (f : β → Chain α) :
    Carried env (throw e >>= f).run .nothing := by
  refine carried_nothing fun hends => ?_
  obtain ⟨rfl, -, rfl⟩ := ends_throw_bind.mp hends
  exact ⟨idle_nil, rfl⟩

theorem carried_validate (command : Object) (typeName : String) :
    Carried env (validate env command typeName).run .nothing := by
  refine carried_nothing fun hends => ?_
  obtain ⟨rfl, -, rfl⟩ := ends_validate.mp hends
  have hvalidates := (Validation.handling_validates env.registry env.services env.token command).1
  exact ⟨hvalidates.mono fun _ => Mark.isIdle_of_isValidating, rfl⟩

/-- The mark of a step stands before what the step does. -/
theorem carried_mark_bind {m : Mark} {f : Unit → Chain α} {emitted : Emissions} (hm : m.isIdle)
    (hf : Carried env (f ()).run emitted) :
    Carried env (liftM (Account.mark m) >>= f).run emitted := by
  intro fs h out fs' hends
  obtain ⟨rest, hrest, rfl⟩ := ends_mark_bind.mp hends
  exact (hf hrest).behind (idle_mark hm)

end Sequences

/-! ## What is held while frames are moved -/

section Moves
variable {fs fs' : List Frame} {h : List Happening}

theorem Closes.idle {stop giveEvents : Bool} {depth : Nat} {mid : List Frame}
    {inner : Outcome CommandResult} {out : Outcome (CommandResult × List Object)}
    (hclose : Closes stop giveEvents depth mid inner h out fs') : Idle h := by
  cases hclose with
  | panicked | orphaned => exact idle_nil
  | failed | withheld | joined => exact idle_mark rfl

/-- What is held when the frame is closed, and what the caller is given, was held before. -/
theorem Closes.held {command : Object} {stop giveEvents : Bool} {depth : Nat} {mid : List Frame}
    {inner : Outcome CommandResult} {out : Outcome (CommandResult × List Object)}
    (hclose : Closes stop giveEvents depth mid inner h out fs') :
    ∀ event ∈ held fs' ++ (ContextRequest.executeWithEvents command stop).shown out,
      event ∈ held mid := by
  intro event hevent
  rcases List.mem_append.mp hevent with hheld | hshown
  · cases hclose with
    | panicked => exact hheld
    | failed | withheld | orphaned => exact held_take hheld
    | joined => exact (held_joinTop hheld).elim held_take held_at
  · cases hclose with
    | panicked | failed | orphaned => cases hshown
    | withheld => exact held_at hshown
    | joined =>
      cases giveEvents with
      | true => exact held_at hshown
      | false => cases hshown

/-- The events of a walk that has gone on from an event are those of the walk, and the event. -/
theorem held_walked {event walked : Object} {rest : List Object} {before : List Object}
    {tail : Outcome (List Object)}
    (hwalked : walked ∈ held fs' ++ ((tail.map (event :: ·)).toOption.getD [])) :
    walked ∈ held fs' ++ tail.toOption.getD [] ∨ walked ∈ before ++ event :: rest := by
  cases tail with
  | error e => exact .inl hwalked
  | ok tail =>
    rcases List.mem_append.mp hwalked with hheld | hlist
    · exact .inl (List.mem_append_left _ hheld)
    · rcases List.mem_cons.mp hlist with rfl | htail
      · exact .inr (List.mem_append_right _ List.mem_cons_self)
      · exact .inl (List.mem_append_right _ htail)

end Moves

/-! ## Operations carry their emissions -/

section Operations
variable {D : Type} {env : Environment D} {answer : (q : ContextRequest) → OnStack q.Reply}
  {emits : ContextRequest → Emissions} {fs fs' : List Frame} {h : List Happening}

/-- Every answer carries the emissions of its request, and what it shows was held. -/
def Answered (env : Environment D) (answer : (q : ContextRequest) → OnStack q.Reply)
    (emits : ContextRequest → Emissions) : Prop :=
  ∀ ⦃q fs h reply fs'⦄, Ends (answer q) fs h reply fs' →
    Carries env (held fs) h (held fs' ++ q.shown reply) (emits q fs)

section Programs
variable (hanswer : Answered env answer emits)
include hanswer

theorem carried_runProgram {α : Type} (p : ChainProgram α) :
    Carried env (runProgram answer p).run (.ofProgram answer emits p) := by
  induction p with
  | done outcome => exact carried_outcome outcome
  | ask q next ih =>
    refine carried_andThen (fun fs h reply fs' hends => ?_) ih
    exact (hanswer hends).mono (fun _ => id) fun _ hheld => .inl (List.mem_append_left _ hheld)

theorem carried_service {T α β : Type} {slot : Slot D T} {program : T → ChainProgram α} {m : Mark}
    {f : α → Chain β} {next : α → Emissions} (hm : m.isIdle)
    (hf : ∀ a, Carried env (f a).run (next a)) :
    Carried env (do
      let service ← act (slot.resolve env.services)
      Account.mark m
      let a ← runProgram answer (program service)
      f a).run (.ofService env answer emits slot program next) := by
  intro fs h out fs' hends
  have hact : Idle (Account.act (slot.resolve env.services)).history := Account.leaves_act _
  unfold Emissions.ofService
  rcases ends_bind_run.mp hends with ⟨e, hraised, rfl⟩ | ⟨service, mid, h₁, h₂, hgiven, hrest, rfl⟩
  · obtain ⟨rfl, houtcome, rfl⟩ := ends_act.mp hraised
    rw [← houtcome]
    exact carries_idle hact fun _ => id
  · obtain ⟨rfl, houtcome, rfl⟩ := ends_act.mp hgiven
    rw [← houtcome]
    have hrun : Carried env (runProgram answer (program service) >>= f).run _ :=
      carried_andOk (carried_runProgram hanswer (program service)) hf
    exact (carried_mark_bind hm hrun hrest).behind hact

theorem carried_callEventHandlers (event : Object) (slots : List (Slot D (EventHandler D) × Nat)) :
    Carried env (callEventHandlers env answer event slots).run
      (.ofEventHandlers env answer emits event slots) := by
  induction slots with
  | nil => exact carried_outcome (.ok ())
  | cons slot rest ih => exact carried_service hanswer rfl fun _ => ih

theorem carried_callPostHandlers (command : Object) (result : CommandResult)
    (slots : List (Slot D (PostHandler D) × Nat)) :
    Carried env (callPostHandlers env answer command result slots).run
      (.ofPostHandlers env answer emits command result slots) := by
  induction slots with
  | nil => exact carried_outcome (.ok ())
  | cons slot rest ih => exact carried_service hanswer rfl fun _ => ih

theorem carried_dispatch (event : Object) :
    Carried env (dispatch env answer event).run (.ofDispatch env answer emits event) := by
  unfold dispatch Emissions.ofDispatch
  cases hd : env.registry.descriptorOf? event with
  | none =>
    rw [require_of_unknown hd]
    exact carried_throw_bind _ _
  | some d =>
    rw [require_of_found hd, pure_bind]
    by_cases hkind : d.kind.isEvent = true
    · rw [if_pos hkind]
      simp only [if_pos hkind]
      exact carried_mark_bind rfl (carried_callEventHandlers hanswer event _)
    · rw [if_neg hkind]
      simp only [if_neg hkind]
      exact carried_throw_bind _ _

theorem carried_rawExecute (command : Object) (validated : Bool) :
    Carried env (rawExecute env answer command validated).run
      (.ofExecution env answer emits command validated) := by
  unfold rawExecute Emissions.ofExecution
  cases hd : env.registry.descriptorOf? command with
  | none =>
    rw [require_of_unknown hd]
    exact carried_throw_bind _ _
  | some d =>
    rw [require_of_found hd, pure_bind]
    by_cases hkind : d.kind.isCommand = true
    · rw [if_pos hkind]
      simp only [if_pos hkind]
      cases d.handler with
      | none => exact carried_outcome (.error _)
      | some elected =>
        obtain ⟨signature, slot⟩ := elected
        have hhandle : Carried env (do
            let handler ← act (slot.resolve env.services)
            Account.mark (.handler command)
            let result ← runProgram answer (handler env.services command)
            callPostHandlers env answer command result d.postHandlers.zipIdx
            return result).run _ :=
          carried_service hanswer rfl fun result =>
            carried_bind_pure (carried_callPostHandlers hanswer command result _)
        -- the validation of a command emits nothing, and stands before the rest
        cases validated with
        | true => exact hhandle
        | false => exact carried_andOk (carried_validate command _) fun _ => hhandle
    · rw [if_neg hkind]
      simp only [if_neg hkind]
      exact carried_throw_bind _ _

theorem carried_emit (event : Object) :
    Carried env (emit env answer event).run (.ofEmit env answer emits event) := by
  intro fs h out fs' hends
  unfold Emissions.ofEmit
  cases ends_emit.mp hends with
  | outside hnone =>
    subst hnone
    exact carries_idle idle_nil fun _ => id
  | unknown htop hunknown =>
    simp only [htop, hunknown]
    exact carries_idle idle_nil fun _ => id
  | @command top d htop hd hkind =>
    simp only [htop, hd]
    cases hkind' : d.kind with
    | command | commandWithResult => exact carries_idle idle_nil fun _ => id
    | _ =>
      rw [hkind'] at hkind
      cases hkind
  | @queued top d stamped htop hstamped hd hkind =>
    subst hstamped
    have hqueued : Carries env (held fs) _ (held (joinTop _ fs)) [] :=
      carries_queued ⟨d, hd, hkind⟩
    rcases hkind with hkind | hkind
    · simp only [htop, hd, hkind]
      exact hqueued
    · simp only [htop, hd, hkind]
      exact hqueued
  | @given top d stamped h out htop hstamped hd hkind hgiven =>
    subst hstamped
    have hbefore : Carries env (held fs) [] (held fs) [] := carries_idle idle_nil fun _ => id
    rcases hkind with hkind | ⟨hkind, hhandled⟩
    · simp only [htop, hd, hkind]
      exact hbefore.given ⟨d, hd, by rw [hkind]; rfl⟩ hgiven
    · simp only [htop, hd, hkind, hhandled]
      exact hbefore.given ⟨d, hd, by rw [hkind]; rfl⟩ hgiven
  | @handled top d stamped h₁ h₂ out fs' htop hstamped hd hkind hhandled hhandling hgiven =>
    subst hstamped
    have hevent : d.kind.isEvent = true := by rw [hkind]; rfl
    have hdispatch := (ends_dispatch hd hevent).mpr ⟨_, hhandling, rfl⟩
    simp only [htop, hd, hkind, hhandled, Emissions.returns_of_ok hdispatch]
    -- what the handlers emitted is below the event, and before it
    exact (carried_dispatch hanswer _ hdispatch).given ⟨d, hd, by rw [hkind]; rfl⟩ hgiven
  | @stopped top d stamped h e fs' htop hstamped hd hkind hhandled hhandling =>
    subst hstamped
    have hevent : d.kind.isEvent = true := by rw [hkind]; rfl
    have hdispatch := (ends_dispatch hd hevent).mpr ⟨_, hhandling, rfl⟩
    simp only [htop, hd, hkind, hhandled, Emissions.returns_of_error hdispatch]
    exact (carried_dispatch hanswer _ hdispatch).stopped ⟨d, hd, by rw [hkind]; rfl⟩

theorem carried_dispatchSafe (event : Object) :
    Carried env (dispatchSafe env answer event) (.ofDispatch env answer emits event) := by
  intro fs h returned fs' hends
  obtain ⟨out, mid, h₁, h₂, hdispatch, hcontained, rfl⟩ := ends_dispatchSafe hends
  have hcarries := carried_dispatch hanswer event hdispatch
  cases hcontained with
  | returned => exact hcarries.ahead idle_nil fun _ => id
  | failed => exact hcarries.ahead nofun fun _ => id
  | panicked => exact hcarries.ahead (idle_mark rfl) fun _ => held_take

/-- The frame of a nested command is closed, and what waits on it goes to the frame below, to the
caller, or nowhere. -/
theorem carries_executeNested {command : Object} {stop giveEvents : Bool}
    {out : Outcome (CommandResult × List Object)}
    (hends : Ends (executeNested env answer command stop giveEvents).run fs h out fs') :
    Carries env (held fs) h
      (held fs' ++ (ContextRequest.executeWithEvents command stop).shown out)
      (Emissions.ofNested env answer emits command fs) := by
  unfold Emissions.ofNested
  rcases ends_executeNested hends with
    ⟨rfl, rfl, rfl, rfl⟩ | ⟨inner, mid, h₁, h₂, hne, hraw, hclose, rfl⟩
  · exact carries_idle idle_nil fun _ => id
  · have hcarries := carried_rawExecute hanswer command false hraw
    rw [held_concat] at hcarries
    rw [if_neg (by simpa using hne)]
    exact (hcarries.ahead hclose.idle hclose.held).behind (idle_mark rfl)

/-- The events that are walked over are held in the list, and taken out of it by who is given the
list in the end. -/
theorem carries_finalDispatch {limit : Nat} {events : List Object} {out : Outcome (List Object)}
    (hends : Ends (finalDispatch env answer limit events).run fs h out fs') :
    Carries env (held fs ++ events) h (held fs' ++ out.toOption.getD [])
      (Emissions.ofFinalDispatch env answer emits limit events fs) := by
  induction limit generalizing events fs h out with
  | zero =>
    cases events with
    | nil =>
      obtain ⟨rfl, rfl, rfl⟩ := ends_pure_run.mp hends
      exact carries_idle idle_nil fun _ => id
    | cons event rest => exact absurd hends not_ends_failure_run
  | succ limit ih =>
    cases events with
    | nil =>
      obtain ⟨rfl, rfl, rfl⟩ := ends_pure_run.mp hends
      exact carries_idle idle_nil fun _ => id
    | cons event rest =>
      unfold finalDispatch at hends
      unfold Emissions.ofFinalDispatch
      by_cases hroute : isRoutedAndHandled env event = true
      · rw [if_pos hroute] at hends ⊢
        rcases ends_bind_run.mp hends with ⟨e, hlast, rfl⟩ | ⟨_, mid, h₁, h₂, hdispatch, hrest, rfl⟩
        · rw [Emissions.andOk_of_error hlast]
          refine (carried_dispatch hanswer event hlast).mono (fun _ => List.mem_append_left _) ?_
          exact fun _ hheld => .inl (List.append_nil (held fs') ▸ hheld)
        · obtain ⟨more, mid', h₃, h₄, htake, hnext, rfl⟩ := ends_frames_bind.mp hrest
          obtain ⟨rfl, rfl, rfl⟩ := ends_takeRootEvents.mp htake
          obtain ⟨tail, htail, rfl⟩ := ends_bind_pure.mp hnext
          rw [Emissions.andOk_of_ok hdispatch]
          -- the list is held as well while the event is dispatched
          have hfirst : Carries env (held fs ++ event :: rest) h₁ (held mid ++ event :: rest) _ :=
            (carried_dispatch hanswer event hdispatch).mono (fun _ => List.mem_append_left _)
              fun _ hheld => (List.mem_append.mp hheld).imp_right (List.mem_append_right _)
          refine hfirst.append ((ih htail).mono ?_ fun _ => held_walked)
          intro held' hheld
          rcases List.mem_append.mp hheld with hroot | hlist
          · exact List.mem_append_left _ (held_emptyRoot hroot)
          · rcases List.mem_append.mp hlist with hrest | hroot
            · exact List.mem_append_right _ (List.mem_cons_of_mem _ hrest)
            · exact List.mem_append_left _ (held_rootEvents hroot)
      · rw [if_neg hroute] at hends ⊢
        obtain ⟨tail, htail, rfl⟩ := ends_bind_pure.mp hends
        refine (ih htail).mono ?_ fun _ => held_walked
        intro held' hheld
        exact (List.mem_append.mp hheld).elim (List.mem_append_left _) fun hrest =>
          List.mem_append_right _ (List.mem_cons_of_mem _ hrest)

/-- A root command begins and ends without frames. -/
theorem carries_executeRoot {limit : Nat} {command : Object} {validated : Bool}
    {out : Outcome ExecutionOutcome}
    (hends : Ends (executeRoot env answer limit command validated).run fs h out fs') :
    Carries env (held fs) h (held fs' ++ (ContextRequest.executeRoot command).shown out)
      (Emissions.ofRoot env answer emits limit command validated fs) := by
  unfold Emissions.ofRoot
  have hframes : fs' = fs := by
    rcases ends_executeRoot.mp hends with ⟨-, -, -, hframes⟩ | ⟨_, _, rfl, -, -, rfl⟩
    · exact hframes
    · rfl
  subst hframes
  rcases ends_executeRoot_parts hends with ⟨hne, rfl, rfl⟩ | ⟨h₁, raw, mid, rfl, hraw, hrest⟩
  · rw [if_neg (by simpa using hne)]
    exact carries_idle idle_nil fun _ hheld => List.append_nil (held fs') ▸ hheld
  · rw [if_pos List.isEmpty_nil]
    have hcarries := carried_rawExecute hanswer command validated hraw
    change Carries env (held []) h₁ (held mid) _ at hcarries
    cases raw with
    | error e =>
      -- the frames that were left are dropped, and what waited on them is gone
      obtain ⟨rfl, rfl⟩ := hrest
      rw [Emissions.andOk_of_error hraw]
      exact (hcarries.behind (idle_mark rfl)).ahead (idle_mark rfl) nofun
    | ok result =>
      obtain ⟨h₂, events, left, hdispatch, rfl, rfl⟩ := hrest
      rw [Emissions.andOk_of_ok hraw]
      have hlater : Carries env (held mid) h₂ _ _ :=
        (carries_finalDispatch hanswer hdispatch).mono
          (fun _ hheld => (List.mem_append.mp hheld).elim held_emptyRoot held_rootEvents)
          fun _ => .inl
      refine ((hcarries.append hlater).behind (idle_mark rfl)).ahead (idle_mark rfl) ?_
      intro event hevent
      cases events with
      | error e => cases hevent
      | ok events => exact List.mem_append_right _ hevent

theorem answered_serve (limit : Nat) :
    Answered env (serve env answer limit) (.ofRequest env answer emits limit) := by
  intro q fs h reply fs' hends
  cases q with
  | execute command =>
    obtain ⟨inner, hnested, rfl⟩ := ends_execute.mp hends
    refine (carries_executeNested hanswer hnested).mono (fun _ => id) fun _ hheld => .inl ?_
    exact List.mem_append_left _ (List.append_nil (held fs') ▸ hheld)
  | executeWithEvents command stop => exact carries_executeNested hanswer hends
  | executeRoot command => exact carries_executeRoot hanswer hends
  | emit event => exact (List.append_nil (held fs')).symm ▸ carried_emit hanswer event hends
  | dispatch event => exact (List.append_nil (held fs')).symm ▸ carried_dispatch hanswer event hends
  | dispatchSafe event =>
    exact (List.append_nil (held fs')).symm ▸ carried_dispatchSafe hanswer event hends
  | view =>
    obtain ⟨rfl, rfl, rfl⟩ := (ends_of_run rfl).mp hends
    exact carries_idle idle_nil fun _ hheld => (List.mem_append.mp hheld).elim id id
  | sign s =>
    obtain ⟨rfl, -, rfl⟩ := ends_lift.mp hends
    exact carries_idle nofun fun _ hheld => List.append_nil (held fs') ▸ hheld

end Programs

/-- Requests carry their emissions at every depth of nesting. -/
theorem answered_perform (env : Environment D) (n : Nat) :
    Answered env (perform env n) (emissions env n) := by
  induction n with
  | zero => exact fun _ _ _ _ _ hends => absurd hends not_ends_failure
  | succ n ih => exact answered_serve ih n

end Operations

/-! ## The whole chain -/

/-- The emissions of a chain, from its root command on. -/
def rootEmissions {D : Type} (env : Environment D) (n : Nat) (command : Object) (validated : Bool) :
    List Emission :=
  Emissions.ofRoot env (perform env n) (emissions env n) n command validated []

/-- **Delivery by kind.**  What becomes of an emitted event is settled by its kind, whatever answers
the requests of its handlers.  Whatever a request does, at any depth of nesting: the sink is called
for the immediate events whose dispatch returned, in the order in which they did, those first that
were emitted while another one was handled; and what is put on frames, found on them later or given
to the caller waits.  So it is in the whole chain of a root command, also if the chain fails or
panics after a call of the sink. -/
theorem delivered_by_kind {D : Type} (env : Environment D) :
    (∀ (answer : (q : ContextRequest) → OnStack q.Reply) event fs h out fs',
      Ends (emit env answer event).run fs h out fs' ↔ Emitted env answer event fs h out fs') ∧
    (∀ n q fs h reply fs', Ends (perform env n q) fs h reply fs' →
      Carries env (held fs) h (held fs' ++ q.shown reply) (emissions env n q fs)) ∧
    ∀ n command validated h out fs',
      Ends (executeRoot env (perform env n) n command validated).run [] h out fs' →
        Carries env [] h (held fs' ++ (ContextRequest.executeRoot command).shown out)
          (rootEmissions env n command validated) ∧
        (∀ event ∈ sinkCalls h, env.IsImmediate event) ∧
        ∀ event ∈ queuedEvents h ++ (ContextRequest.executeRoot command).shown out,
          env.IsWaiting event ∧ event ∉ sinkCalls h := by
  refine ⟨fun _ _ _ _ _ _ => ends_emit, fun n q _ _ _ _ hends => answered_perform env n hends, ?_⟩
  intro n command validated h out fs' hends
  have hcarries := carries_executeRoot (answered_perform env n) hends
  refine ⟨hcarries, hcarries.sunk_immediate, fun event hevent => ?_⟩
  have hwaiting : env.IsWaiting event := by
    rcases List.mem_append.mp hevent with hqueued | hshown
    · exact hcarries.queued event hqueued
    · exact hcarries.waiting nofun event (List.mem_append_right _ hshown)
  exact ⟨hwaiting, fun hsunk => hwaiting.not_immediate (hcarries.sunk_immediate event hsunk)⟩

/-! ### Bells, one of them cracked -/

namespace Ringing

open Nested Alarmed Relayed

/-- An immediate event with handlers. -/
def bell (type : String) (handlers : List (ChainProgram Unit)) : Descriptor Unit :=
  { reaction type handlers with kind := .routedImmediateEvent }

/-- Rings two bells. -/
def ringing : ChainProgram CommandResult := do
  sending "bell" 1
  sending "cracked" 2
  return .void

/-- Bells sound when they are rung.  The cracked one sounds and breaks. -/
def environment : Environment Unit :=
  { Environment.of (.of [descriptor "ring" .command (some ringing),
      descriptor "sound" .callerOnlyImmediateEvent none, descriptor "echo" .callerOnlyEvent none,
      bell "bell" [sending "sound" 3, sending "echo" 4],
      bell "cracked" [sending "sound" 5, .raise (.failure (.other "broken"))]]) ()
    with sink := some ⟨fun _ => pure (.ok ()), nofun⟩ }

theorem ring_breaks : ∃ h,
    Ends (executeRoot environment (perform environment 3) 3 (object "ring" 0) false).run [] h
      (.error (.failure (.other "broken"))) [] ∧ queuedEvents h = [object "echo" 4] :=
  ⟨_, rfl, rfl⟩

/-- The sound of a bell is heard before the bell, and the sound of the cracked one although it
breaks; the cracked one itself is not heard, and neither is the echo. -/
theorem delivered_by_kind_broken : ∃ h,
    Ends (executeRoot environment (perform environment 3) 3 (object "ring" 0) false).run [] h
      (.error (.failure (.other "broken"))) [] ∧
    Emission.endsAll (rootEmissions environment 3 (object "ring" 0) false) =
      [(object "sound" 3, true), (object "bell" 1, true), (object "sound" 5, true),
        (object "cracked" 2, false)] ∧
    sinkCalls h = [object "sound" 3, object "bell" 1, object "sound" 5] ∧
    object "echo" 4 ∉ sinkCalls h := by
  obtain ⟨h, hends, hqueued⟩ := ring_breaks
  obtain ⟨-, -, hchains⟩ := delivered_by_kind environment
  obtain ⟨hcarries, -, hwaiting⟩ := hchains 3 (object "ring" 0) false h _ [] hends
  refine ⟨h, hends, rfl, hcarries.sunk, (hwaiting (object "echo" 4) ?_).2⟩
  rw [hqueued]
  exact List.mem_cons_self

end Ringing
end Chain
end CommandEngine
