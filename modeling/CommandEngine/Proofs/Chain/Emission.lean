import CommandEngine.Proofs.Chain.Protocol

/-!
# Where an emitted event goes

An event is emitted on behalf of the command on top of the stack, which it is stamped with, and its
kind decides what becomes of it (`Emitted`).  Outside a chain, and when its type is unknown or that
of a command, the emission fails and nothing happens.  An event that waits is put on the frame on
top, and that is all.  An immediate event goes to the sink within its emission; one that is routed
and handled is dispatched before that, and if its dispatch raises something, the sink never sees it.

A dispatch runs the event handlers one after the other, up to the first that does not return
(`EventHandling`).  So a dispatch that returns has run them all, each once and in order.

The cases are those of the code, put together without gaps: what ends an emission is one of them,
and each of them is the end of an emission.  Requests may be answered by any function.
-/
namespace CommandEngine
namespace Chain

variable {D : Type} {env : Environment D} {answer : (q : ContextRequest) → OnStack q.Reply}
  {event : Object} {d : Descriptor D} {fs fs' : List Frame} {h : List Happening}
  {out : Outcome Unit}

/-! ## Dispatches -/

/-- The event handlers run one after the other, up to the first that does not return. -/
inductive EventHandling (env : Environment D) (answer : (q : ContextRequest) → OnStack q.Reply)
    (event : Object) : List (Slot D (EventHandler D) × Nat) →
      List Frame → List Happening → Outcome Unit → List Frame → Prop where
  | none (fs : List Frame) : EventHandling env answer event [] fs [] (.ok ()) fs
  | unresolved {slot : Slot D (EventHandler D)} {index : Nat}
    {rest : List (Slot D (EventHandler D) × Nat)} {fs : List Frame} {e : Raise}
    (hresolve : (slot.resolve env.services).outcome = .error e) :
    EventHandling env answer event ((slot, index) :: rest) fs (resolving env slot) (.error e) fs
  | raised {slot : Slot D (EventHandler D)} {handler : EventHandler D} {index : Nat}
    {rest : List (Slot D (EventHandler D) × Nat)} {fs fs' : List Frame} {h : List Happening}
    {e : Raise} (hresolve : (slot.resolve env.services).outcome = .ok handler)
    (hrun : Ends (runProgram answer (handler env.services event)).run fs h (.error e) fs') :
    EventHandling env answer event ((slot, index) :: rest) fs
      (resolving env slot ++ .mark (.eventHandler event index) :: h) (.error e) fs'
  | next {slot : Slot D (EventHandler D)} {handler : EventHandler D} {index : Nat}
    {rest : List (Slot D (EventHandler D) × Nat)} {fs mid fs' : List Frame}
    {h₁ h₂ : List Happening} {out : Outcome Unit}
    (hresolve : (slot.resolve env.services).outcome = .ok handler)
    (hrun : Ends (runProgram answer (handler env.services event)).run fs h₁ (.ok ()) mid)
    (hrest : EventHandling env answer event rest mid h₂ out fs') :
    EventHandling env answer event ((slot, index) :: rest) fs
      (resolving env slot ++ .mark (.eventHandler event index) :: (h₁ ++ h₂)) out fs'

theorem ends_callEventHandlers {slots : List (Slot D (EventHandler D) × Nat)} :
    Ends (callEventHandlers env answer event slots).run fs h out fs' ↔
      EventHandling env answer event slots fs h out fs' := by
  constructor
  · intro hends
    -- each handler begins on the frames that the one before it left
    induction slots generalizing fs h with
    | nil =>
      obtain ⟨rfl, rfl, rfl⟩ := ends_pure_run.mp hends
      exact .none _
    | cons slot rest ih =>
      unfold callEventHandlers at hends
      rcases ends_bind_run.mp hends with ⟨e, hact, rfl⟩ | ⟨handler, mid, h₁, h₂, hact, hcall, rfl⟩
      · obtain ⟨rfl, houtcome, rfl⟩ := ends_act.mp hact
        exact .unresolved houtcome.symm
      · obtain ⟨rfl, houtcome, rfl⟩ := ends_act.mp hact
        obtain ⟨h₃, hrun, rfl⟩ := ends_mark_bind.mp hcall
        rcases ends_bind_run.mp hrun with ⟨e, hhandler, rfl⟩ | ⟨_, mid, h₄, h₅, hhandler, hrest, rfl⟩
        · exact .raised houtcome.symm hhandler
        · exact .next houtcome.symm hhandler (ih hrest)
  · intro hhandling
    induction hhandling with
    | none => exact ends_pure_run.mpr ⟨rfl, rfl, rfl⟩
    | unresolved hresolve =>
      exact ends_bind_run.mpr (.inl ⟨_, ends_act.mpr ⟨rfl, hresolve.symm, rfl⟩, rfl⟩)
    | raised hresolve hrun =>
      refine ends_bind_run.mpr (.inr ⟨_, _, _, _, ends_act.mpr ⟨rfl, hresolve.symm, rfl⟩, ?_, rfl⟩)
      exact ends_mark_bind.mpr ⟨_, ends_bind_run.mpr (.inl ⟨_, hrun, rfl⟩), rfl⟩
    | next hresolve hrun _ ih =>
      refine ends_bind_run.mpr (.inr ⟨_, _, _, _, ends_act.mpr ⟨rfl, hresolve.symm, rfl⟩, ?_, rfl⟩)
      exact ends_mark_bind.mpr ⟨_, ends_bind_run.mpr (.inr ⟨_, _, _, _, hrun, ih, rfl⟩), rfl⟩

/-- The dispatch of an event is marked, and then its handlers run. -/
theorem ends_dispatch (hd : env.registry.descriptorOf? event = some d)
    (hkind : d.kind.isEvent = true) :
    Ends (dispatch env answer event).run fs h out fs' ↔ ∃ rest,
      EventHandling env answer event d.eventHandlers.zipIdx fs rest out fs' ∧
        h = .mark (.dispatching event) :: rest := by
  unfold dispatch
  rw [require_of_found hd, pure_bind, if_pos hkind, ends_mark_bind]
  simp only [ends_callEventHandlers]

/-! ## Emissions -/

/-- The event is given to the sink, if there is one: once, and the answer of the sink is that of the
emission. -/
inductive Given (env : Environment D) (event : Object) : List Happening → Outcome Unit → Prop where
  | nobody (hnone : env.sink = none) : Given env event [] (.ok ())
  | sunk {sink : Sink} (hsink : env.sink = some sink) :
    Given env event (.mark (.sunk event) :: (sink.receive event).history) (sink.receive event).value

theorem ends_notify :
    Ends (notify env event).run fs h out fs' ↔ Given env event h out ∧ fs' = fs := by
  unfold notify
  cases hsink : env.sink with
  | none =>
    dsimp only
    rw [ends_pure_run]
    constructor
    · rintro ⟨rfl, rfl, rfl⟩
      exact ⟨.nobody hsink, rfl⟩
    · rintro ⟨hgiven, rfl⟩
      cases hgiven with
      | nobody => exact ⟨rfl, rfl, rfl⟩
      | sunk hsome => cases hsink.symm.trans hsome
  | some sink =>
    dsimp only
    rw [ends_mark_bind]
    simp only [ends_lift_bind, ends_ofOutcome]
    constructor
    · rintro ⟨_, ⟨_, ⟨rfl, rfl, rfl⟩, rfl⟩, rfl⟩
      rw [List.append_nil]
      exact ⟨.sunk hsink, rfl⟩
    · rintro ⟨hgiven, rfl⟩
      cases hgiven with
      | nobody hnone => cases hsink.symm.trans hnone
      | sunk hsome =>
        cases hsink.symm.trans hsome
        exact ⟨_, ⟨_, ⟨rfl, rfl, rfl⟩, rfl⟩, by rw [List.append_nil]⟩

/-- **What becomes of an emitted event.**  `stamped` is the event with the stamp of the command on
top, and `d` describes its type. -/
inductive Emitted (env : Environment D) (answer : (q : ContextRequest) → OnStack q.Reply)
    (event : Object) (fs : List Frame) : List Happening → Outcome Unit → List Frame → Prop where
  | outside (hnone : fs = []) :
    Emitted env answer event fs [] (.error (EngineError.noChainToEmit : Raise)) fs
  | unknown {top : Frame} (htop : fs.getLast? = some top)
    (hunknown : env.registry.descriptorOf? (event.stamp top.command env.party) = none) :
    Emitted env answer event fs [] (.error (EngineError.unknownType event.type.name : Raise)) fs
  | command {top : Frame} {d : Descriptor D} (htop : fs.getLast? = some top)
    (hd : env.registry.descriptorOf? (event.stamp top.command env.party) = some d)
    (hkind : d.kind.isCommand = true) : Emitted env answer event fs []
      (.error (EngineError.kindMismatch d.type.name "event" d.kind : Raise)) fs
  /-- It waits on the frame on top. -/
  | queued {top : Frame} {d : Descriptor D} {stamped : Object} (htop : fs.getLast? = some top)
    (hstamped : stamped = event.stamp top.command env.party)
    (hd : env.registry.descriptorOf? stamped = some d)
    (hkind : d.kind = .routedEvent ∨ d.kind = .callerOnlyEvent) :
    Emitted env answer event fs [.mark (.queued stamped)] (.ok ()) (joinTop [stamped] fs)
  /-- It has no handlers to go to, and goes to the sink. -/
  | given {top : Frame} {d : Descriptor D} {stamped : Object} {h : List Happening}
    {out : Outcome Unit} (htop : fs.getLast? = some top)
    (hstamped : stamped = event.stamp top.command env.party)
    (hd : env.registry.descriptorOf? stamped = some d)
    (hkind : d.kind = .callerOnlyImmediateEvent ∨
      d.kind = .routedImmediateEvent ∧ d.isHandled = false)
    (hgiven : Given env stamped h out) : Emitted env answer event fs h out fs
  /-- All its handlers returned, and then it goes to the sink. -/
  | handled {top : Frame} {d : Descriptor D} {stamped : Object} {h₁ h₂ : List Happening}
    {out : Outcome Unit} {fs' : List Frame} (htop : fs.getLast? = some top)
    (hstamped : stamped = event.stamp top.command env.party)
    (hd : env.registry.descriptorOf? stamped = some d)
    (hkind : d.kind = .routedImmediateEvent) (hhandled : d.isHandled = true)
    (hhandling : EventHandling env answer stamped d.eventHandlers.zipIdx fs h₁ (.ok ()) fs')
    (hgiven : Given env stamped h₂ out) :
    Emitted env answer event fs (.mark (.dispatching stamped) :: (h₁ ++ h₂)) out fs'
  /-- A handler did not return. -/
  | stopped {top : Frame} {d : Descriptor D} {stamped : Object} {h : List Happening} {e : Raise}
    {fs' : List Frame} (htop : fs.getLast? = some top)
    (hstamped : stamped = event.stamp top.command env.party)
    (hd : env.registry.descriptorOf? stamped = some d)
    (hkind : d.kind = .routedImmediateEvent) (hhandled : d.isHandled = true)
    (hhandling : EventHandling env answer stamped d.eventHandlers.zipIdx fs h (.error e) fs') :
    Emitted env answer event fs (.mark (.dispatching stamped) :: h) (.error e) fs'

section Ending
variable {top : Frame}

theorem ends_emit_outside : Ends (emit env answer event).run [] h out fs' ↔
    h = [] ∧ out = .error (EngineError.noChainToEmit : Raise) ∧ fs' = [] :=
  ends_of_run rfl

theorem ends_emit_unknown (htop : fs.getLast? = some top)
    (hunknown : env.registry.descriptorOf? (event.stamp top.command env.party) = none) :
    Ends (emit env answer event).run fs h out fs' ↔
      h = [] ∧ out = .error (EngineError.unknownType event.type.name : Raise) ∧ fs' = fs := by
  unfold emit
  rw [ends_get_bind, htop]
  dsimp only
  rw [require_of_unknown hunknown, Object.type_stamp, ends_throw_bind]

theorem ends_emit_command (htop : fs.getLast? = some top)
    (hd : env.registry.descriptorOf? (event.stamp top.command env.party) = some d)
    (hkind : d.kind.isCommand = true) : Ends (emit env answer event).run fs h out fs' ↔
      h = [] ∧ out = .error (EngineError.kindMismatch d.type.name "event" d.kind : Raise) ∧
        fs' = fs := by
  unfold emit
  rw [ends_get_bind, htop]
  dsimp only
  rw [require_of_found hd, pure_bind]
  cases hd' : d.kind with
  | command => exact ends_throw_run
  | commandWithResult => exact ends_throw_run
  | routedEvent | callerOnlyEvent | routedImmediateEvent | callerOnlyImmediateEvent =>
    rw [hd'] at hkind
    cases hkind

/-- An immediate event without handlers. -/
theorem ends_emit_given (htop : fs.getLast? = some top)
    (hd : env.registry.descriptorOf? (event.stamp top.command env.party) = some d)
    (hkind : d.kind = .callerOnlyImmediateEvent ∨
      d.kind = .routedImmediateEvent ∧ d.isHandled = false) :
    Ends (emit env answer event).run fs h out fs' ↔
      Given env (event.stamp top.command env.party) h out ∧ fs' = fs := by
  unfold emit
  rw [ends_get_bind, htop]
  dsimp only
  rw [require_of_found hd, pure_bind]
  rcases hkind with hkind | ⟨hkind, hhandled⟩
  · rw [hkind]
    exact ends_notify
  · rw [hkind]
    dsimp only
    rw [hhandled, if_neg Bool.false_ne_true]
    exact ends_notify

/-- An immediate event with handlers. -/
theorem ends_emit_handled (htop : fs.getLast? = some top)
    (hd : env.registry.descriptorOf? (event.stamp top.command env.party) = some d)
    (hkind : d.kind = .routedImmediateEvent) (hhandled : d.isHandled = true) :
    Ends (emit env answer event).run fs h out fs' ↔
      Ends (do
        dispatch env answer (event.stamp top.command env.party)
        notify env (event.stamp top.command env.party) : Chain Unit).run fs h out fs' := by
  unfold emit
  rw [ends_get_bind, htop]
  dsimp only
  rw [require_of_found hd, pure_bind, hkind]
  dsimp only
  rw [if_pos hhandled]

/-- **Where an emitted event goes.** -/
theorem ends_emit : Ends (emit env answer event).run fs h out fs' ↔
    Emitted env answer event fs h out fs' := by
  constructor
  · intro hends
    cases htop : fs.getLast? with
    | none =>
      obtain rfl := List.getLast?_eq_none_iff.mp htop
      obtain ⟨rfl, rfl, rfl⟩ := ends_emit_outside.mp hends
      exact .outside rfl
    | some top =>
      cases hd : env.registry.descriptorOf? (event.stamp top.command env.party) with
      | none =>
        obtain ⟨rfl, rfl, rfl⟩ := (ends_emit_unknown htop hd).mp hends
        exact .unknown htop hd
      | some d =>
        -- every kind has its own lemma, but for the routed immediate one, which has two
        cases hkind : d.kind with
        | command | commandWithResult =>
          have hcommand : d.kind.isCommand = true := by rw [hkind]; rfl
          obtain ⟨rfl, rfl, rfl⟩ := (ends_emit_command htop hd hcommand).mp hends
          exact .command htop hd hcommand
        | routedEvent =>
          obtain ⟨rfl, rfl, rfl⟩ := (ends_emit_waiting htop hd (.inl hkind)).mp hends
          exact .queued htop rfl hd (.inl hkind)
        | callerOnlyEvent =>
          obtain ⟨rfl, rfl, rfl⟩ := (ends_emit_waiting htop hd (.inr hkind)).mp hends
          exact .queued htop rfl hd (.inr hkind)
        | callerOnlyImmediateEvent =>
          obtain ⟨hgiven, rfl⟩ := (ends_emit_given htop hd (.inl hkind)).mp hends
          exact .given htop rfl hd (.inl hkind) hgiven
        | routedImmediateEvent =>
          by_cases hhandled : d.isHandled = true
          · have hevent : d.kind.isEvent = true := by rw [hkind]; rfl
            rw [ends_emit_handled htop hd hkind hhandled] at hends
            rcases ends_bind_run.mp hends with
              ⟨e, hdispatch, rfl⟩ | ⟨_, mid, h₁, h₂, hdispatch, hnotify, rfl⟩
            · obtain ⟨rest, hhandling, rfl⟩ := (ends_dispatch hd hevent).mp hdispatch
              exact .stopped htop rfl hd hkind hhandled hhandling
            · obtain ⟨rest, hhandling, rfl⟩ := (ends_dispatch hd hevent).mp hdispatch
              obtain ⟨hgiven, rfl⟩ := ends_notify.mp hnotify
              exact .handled htop rfl hd hkind hhandled hhandling hgiven
          · have hunhandled : d.isHandled = false := Bool.eq_false_iff.mpr hhandled
            obtain ⟨hgiven, rfl⟩ :=
              (ends_emit_given htop hd (.inr ⟨hkind, hunhandled⟩)).mp hends
            exact .given htop rfl hd (.inr ⟨hkind, hunhandled⟩) hgiven
  · intro hemitted
    cases hemitted with
    | outside hnone =>
      subst hnone
      exact ends_emit_outside.mpr ⟨rfl, rfl, rfl⟩
    | unknown htop hunknown => exact (ends_emit_unknown htop hunknown).mpr ⟨rfl, rfl, rfl⟩
    | command htop hd hkind => exact (ends_emit_command htop hd hkind).mpr ⟨rfl, rfl, rfl⟩
    | queued htop hstamped hd hkind =>
      subst hstamped
      exact (ends_emit_waiting htop hd hkind).mpr ⟨rfl, rfl, rfl⟩
    | given htop hstamped hd hkind hgiven =>
      subst hstamped
      exact (ends_emit_given htop hd hkind).mpr ⟨hgiven, rfl⟩
    | @handled top d _ h₁ h₂ _ _ htop hstamped hd hkind hhandled hhandling hgiven =>
      subst hstamped
      have hevent : d.kind.isEvent = true := by rw [hkind]; rfl
      have hdispatch := (ends_dispatch hd hevent).mpr ⟨_, hhandling, rfl⟩
      refine (ends_emit_handled htop hd hkind hhandled).mpr (ends_bind_run.mpr (.inr ?_))
      exact ⟨(), _, _, h₂, hdispatch, ends_notify.mpr ⟨hgiven, rfl⟩, rfl⟩
    | @stopped top d _ h e _ htop hstamped hd hkind hhandled hhandling =>
      subst hstamped
      have hevent : d.kind.isEvent = true := by rw [hkind]; rfl
      have hdispatch := (ends_dispatch hd hevent).mpr ⟨_, hhandling, rfl⟩
      refine (ends_emit_handled htop hd hkind hhandled).mpr (ends_bind_run.mpr (.inl ?_))
      exact ⟨e, hdispatch, rfl⟩

end Ending
end Chain
end CommandEngine
