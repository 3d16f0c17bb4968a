import CommandEngine.Proofs.Chain.Deliveries
import CommandEngine.Proofs.Chain.Requests

/-!
# Where the stamp of an event is from

An event is stamped when it is emitted, with the command on top of the frames that the emission was
requested on and with the party of the context.  From then on it is the same object wherever it is
seen: when it is put on a frame, when it bubbles up to the frames of the callers, when it is
dispatched to its handlers, when it is given to the sink, and when it is given to a caller.

This is said of a run and the set of requests that it makes (`Stamped`): the objects that are put on
frames or given to the sink are the stamped events of emissions in this set, those that are
dispatched are so too, unless application code has asked for their dispatch, and what is held after
the run was held before or is such an event.  Since the set is any set that has all requests of the
run, nothing but these emissions can be the origin of a stamp.

What happens is read off the marks.  The events that a mark is about are those of the operation that
leaves it (`Traceable`), and for the final events, which come from the frame of the root, it is
known by now that what is held was queued (`Carries`).  The induction is on the depth of nesting.
-/
namespace CommandEngine
namespace Chain

variable {D : Type}

/-- The object is an event that was emitted, with the stamp of the command that was on top. -/
def IsEmitted (env : Environment D) (made : ContextRequest → List Frame → Bool) (o : Object) :
    Prop :=
  ∃ event fs top, made (.emit event) fs = true ∧ fs.getLast? = some top ∧
    o = event.stamp top.command env.party

/-- Application code has asked for the dispatch of the object. -/
def IsSubmitted (made : ContextRequest → List Frame → Bool) (o : Object) : Prop :=
  ∃ fs, made (.dispatch o) fs = true ∨ made (.dispatchSafe o) fs = true

/-- It is known where the event is from that a mark is about. -/
def Traceable (env : Environment D) (made : ContextRequest → List Frame → Bool) : Mark → Prop
  | .queued o | .sunk o => IsEmitted env made o
  | .dispatching o | .eventHandler o _ => IsEmitted env made o ∨ IsSubmitted made o
  | _ => True

/-- The marks of a history are traceable. -/
def AllTraceable (env : Environment D) (made : ContextRequest → List Frame → Bool)
    (h : List Happening) : Prop := ∀ m ∈ marks h, Traceable env made m

/-- **Where the events of a run are from**, given the requests that it makes.  `before` are the
events that are held before the run, and `after` those that are held after it or given to whoever
made the request. -/
structure Stamped (env : Environment D) (made : ContextRequest → List Frame → Bool)
    (before : List Object) (h : List Happening) (after : List Object) : Prop where
  queued : ∀ o ∈ queuedEvents h, IsEmitted env made o
  sunk : ∀ o ∈ sinkCalls h, IsEmitted env made o
  dispatched : ∀ o, .dispatching o ∈ marks h → IsEmitted env made o ∨ IsSubmitted made o
  handled : ∀ o index, .eventHandler o index ∈ marks h → IsEmitted env made o ∨ IsSubmitted made o
  held : ∀ o ∈ after, o ∈ before ∨ IsEmitted env made o

/-- An emitted event of a type that keeps stamps names the command that was on top when it was
emitted, and the party, whatever stamp it had before. -/
theorem IsEmitted.stamp {env : Environment D} {made : ContextRequest → List Frame → Bool}
    {o : Object} (hemitted : IsEmitted env made o) (hkeeps : o.body.keepsStamp = true) :
    ∃ event fs top, made (.emit event) fs = true ∧ fs.getLast? = some top ∧
      o.body = event.body ∧ o.source? = some top.command ∧ o.party? = some env.party := by
  obtain ⟨event, fs, top, hmade, htop, rfl⟩ := hemitted
  rw [Object.body_stamp] at hkeeps
  refine ⟨event, fs, top, hmade, htop, Object.body_stamp .., ?_, ?_⟩
  · rw [Object.stamp, if_pos hkeeps, Object.source?]
  · rw [Object.stamp, if_pos hkeeps, Object.party?]

/-! ## Histories -/

section Histories
variable {env : Environment D} {made : ContextRequest → List Frame → Bool}
  {h h₁ h₂ : List Happening} {m : Mark} {event : Object}

theorem allTraceable_nil : AllTraceable env made [] := nofun

theorem allTraceable_append : AllTraceable env made (h₁ ++ h₂) ↔
    AllTraceable env made h₁ ∧ AllTraceable env made h₂ := by
  rw [AllTraceable, marks_append, List.forall_mem_append, AllTraceable, AllTraceable]

theorem allTraceable_cons : AllTraceable env made (.mark m :: h) ↔
    Traceable env made m ∧ AllTraceable env made h :=
  List.forall_mem_cons

theorem allTraceable_mark (hm : Traceable env made m) : AllTraceable env made [.mark m] :=
  allTraceable_cons.mpr ⟨hm, allTraceable_nil⟩

theorem allTraceable_resolving {T : Type} {slot : Slot D T} :
    AllTraceable env made (resolving env slot) := Account.leaves_act _

/-- A service is obtained, its call is marked, and then its program runs. -/
theorem allTraceable_service {T : Type} {slot : Slot D T} (hm : Traceable env made m)
    (hrun : AllTraceable env made h) :
    AllTraceable env made (resolving env slot ++ .mark m :: h) :=
  allTraceable_append.mpr ⟨allTraceable_resolving, allTraceable_cons.mpr ⟨hm, hrun⟩⟩

theorem traceable_of_isValidating (hm : m.isValidating) : Traceable env made m := by
  cases m with
  | queued | sunk | dispatching | eventHandler => cases hm
  | _ => trivial

/-- The sink calls hooks only. -/
theorem Given.traceable {out : Outcome Unit} (hgiven : Given env event h out)
    (hevent : IsEmitted env made event) : AllTraceable env made h := by
  cases hgiven with
  | nobody => exact allTraceable_nil
  | @sunk sink _ =>
    refine allTraceable_cons.mpr ⟨hevent, fun m hm => ?_⟩
    obtain ⟨call, rfl⟩ := sink.outside event m (mem_marks.mp hm)
    trivial

theorem AllTraceable.queued (htraceable : AllTraceable env made h) :
    ∀ o ∈ queuedEvents h, IsEmitted env made o := by
  intro o ho
  obtain ⟨m, hm, hqueued⟩ := List.mem_filterMap.mp ho
  cases m with
  | queued o' => exact Option.some.inj hqueued ▸ htraceable _ hm
  | _ => cases hqueued

theorem AllTraceable.sunk (htraceable : AllTraceable env made h) :
    ∀ o ∈ sinkCalls h, IsEmitted env made o := by
  intro o ho
  obtain ⟨m, hm, hsunk⟩ := List.mem_filterMap.mp ho
  cases m with
  | sunk o' => exact Option.some.inj hsunk ▸ htraceable _ hm
  | _ => cases hsunk

end Histories

/-! ## Operations -/

section Operations
variable {env : Environment D} {made : ContextRequest → List Frame → Bool}
  {answer : (q : ContextRequest) → OnStack q.Reply} {fs fs' : List Frame} {h : List Happening}
  (hanswer : ∀ ⦃q fs h reply fs'⦄, Ends (answer q) fs h reply fs' → AllTraceable env made h)
include hanswer

theorem traceable_runProgram {α : Type} {p : ChainProgram α} {out : Outcome α}
    (hends : Ends (runProgram answer p).run fs h out fs') : AllTraceable env made h := by
  induction p generalizing fs h with
  | done outcome =>
    obtain ⟨rfl, -, -⟩ := ends_pure.mp hends
    exact allTraceable_nil
  | ask q next ih =>
    obtain ⟨reply, mid, h₁, h₂, hreply, hrest, rfl⟩ := ends_bind.mp hends
    exact allTraceable_append.mpr ⟨hanswer hreply, ih reply hrest⟩

theorem EventHandling.traceable {event : Object} {slots : List (Slot D (EventHandler D) × Nat)}
    {out : Outcome Unit} (hhandling : EventHandling env answer event slots fs h out fs')
    (hevent : IsEmitted env made event ∨ IsSubmitted made event) : AllTraceable env made h := by
  induction hhandling with
  | none => exact allTraceable_nil
  | unresolved => exact allTraceable_resolving
  | raised _ hrun => exact allTraceable_service hevent (traceable_runProgram hanswer hrun)
  | next _ hrun _ ih =>
    have hboth := allTraceable_append.mpr ⟨traceable_runProgram hanswer hrun, ih⟩
    exact allTraceable_service hevent hboth

theorem traceable_dispatch {event : Object} {out : Outcome Unit}
    (hevent : IsEmitted env made event ∨ IsSubmitted made event)
    (hends : Ends (dispatch env answer event).run fs h out fs') : AllTraceable env made h := by
  cases hd : env.registry.descriptorOf? event with
  | none =>
    unfold dispatch at hends
    rw [require_of_unknown hd] at hends
    obtain ⟨rfl, -, -⟩ := ends_throw_bind.mp hends
    exact allTraceable_nil
  | some d =>
    by_cases hkind : d.kind.isEvent = true
    · obtain ⟨rest, hhandling, rfl⟩ := (ends_dispatch hd hkind).mp hends
      exact allTraceable_cons.mpr ⟨hevent, hhandling.traceable hanswer hevent⟩
    · unfold dispatch at hends
      rw [require_of_found hd, pure_bind, if_neg hkind] at hends
      obtain ⟨rfl, -, -⟩ := ends_throw_bind.mp hends
      exact allTraceable_nil

/-- The stamp is made here, from the frame on top. -/
theorem traceable_emit {event : Object} {out : Outcome Unit} (hmade : made (.emit event) fs = true)
    (hends : Ends (emit env answer event).run fs h out fs') : AllTraceable env made h := by
  cases ends_emit.mp hends with
  | outside | unknown | command => exact allTraceable_nil
  | queued htop hstamped => exact allTraceable_mark ⟨event, fs, _, hmade, htop, hstamped⟩
  | given htop hstamped _ _ hgiven => exact hgiven.traceable ⟨event, fs, _, hmade, htop, hstamped⟩
  | handled htop hstamped _ _ _ hhandling hgiven =>
    have hemitted : IsEmitted env made _ := ⟨event, fs, _, hmade, htop, hstamped⟩
    have hduring := hhandling.traceable hanswer (.inl hemitted)
    refine allTraceable_cons.mpr ⟨.inl hemitted, allTraceable_append.mpr ⟨hduring, ?_⟩⟩
    exact hgiven.traceable hemitted
  | stopped htop hstamped _ _ _ hhandling =>
    have hemitted : IsEmitted env made _ := ⟨event, fs, _, hmade, htop, hstamped⟩
    exact allTraceable_cons.mpr ⟨.inl hemitted, hhandling.traceable hanswer (.inl hemitted)⟩

theorem PostHandling.traceable {command : Object} {result : CommandResult}
    {slots : List (Slot D (PostHandler D) × Nat)} {out : Outcome Unit}
    (hhandling : PostHandling env answer command result slots fs h out fs') :
    AllTraceable env made h := by
  induction hhandling with
  | none => exact allTraceable_nil
  | unresolved => exact allTraceable_resolving
  | raised _ hrun => exact allTraceable_service trivial (traceable_runProgram hanswer hrun)
  | next _ hrun _ ih =>
    have hboth := allTraceable_append.mpr ⟨traceable_runProgram hanswer hrun, ih⟩
    exact allTraceable_service trivial hboth

theorem Handling.traceable {command : Object} {d : Descriptor D} {out : Outcome CommandResult}
    (hhandling : Handling env answer command d fs h out fs') : AllTraceable env made h := by
  cases hhandling with
  | unresolved => exact allTraceable_resolving
  | raised _ _ hrun => exact allTraceable_service trivial (traceable_runProgram hanswer hrun)
  | returned _ _ hrun hposts =>
    have hboth := allTraceable_append.mpr
      ⟨traceable_runProgram hanswer hrun, hposts.traceable hanswer⟩
    exact allTraceable_service trivial hboth

theorem traceable_rawExecute {command : Object} {validated : Bool} {out : Outcome CommandResult}
    (hends : Ends (rawExecute env answer command validated).run fs h out fs') :
    AllTraceable env made h := by
  rcases rawExecute_protocol hends with
    ⟨e, hbarred, -, -⟩ | ⟨d, h₁, h₂, hadmitted, hhandling, rfl⟩
  · exact fun m hm => traceable_of_isValidating (hbarred.validating m hm)
  · refine allTraceable_append.mpr ⟨?_, hhandling.traceable hanswer⟩
    exact fun m hm => traceable_of_isValidating (hadmitted.validating m hm)

/-- The frame of a nested command is closed without a further event. -/
theorem traceable_executeNested {command : Object} {stop giveEvents : Bool}
    {out : Outcome (CommandResult × List Object)}
    (hends : Ends (executeNested env answer command stop giveEvents).run fs h out fs') :
    AllTraceable env made h := by
  rcases ends_executeNested hends with ⟨-, rfl, -, -⟩ | ⟨_, _, h₁, h₂, -, hraw, hclose, rfl⟩
  · exact allTraceable_nil
  · rw [List.singleton_append]
    refine allTraceable_cons.mpr ⟨trivial, allTraceable_append.mpr ⟨?_, ?_⟩⟩
    · exact traceable_rawExecute hanswer hraw
    · cases hclose with
      | panicked | orphaned => exact allTraceable_nil
      | failed | withheld | joined => exact allTraceable_mark trivial

theorem traceable_dispatchSafe {event : Object} {returned : Bool}
    (hevent : IsEmitted env made event ∨ IsSubmitted made event)
    (hends : Ends (dispatchSafe env answer event) fs h returned fs') : AllTraceable env made h := by
  obtain ⟨out, mid, h₁, h₂, hdispatch, hcontained, rfl⟩ := ends_dispatchSafe hends
  refine allTraceable_append.mpr ⟨traceable_dispatch hanswer hevent hdispatch, ?_⟩
  cases hcontained with
  | returned | failed => exact nofun
  | panicked => exact allTraceable_cons.mpr ⟨trivial, nofun⟩

section Root
variable {emits : ContextRequest → Emissions} (hcarried : Answered env answer emits)
include hcarried

/-- What waits on the frame of the root when an event is dispatched was held before, or was queued
during the dispatch; so the list that is walked over has emitted events only. -/
theorem traceable_finalDispatch {limit : Nat} {events : List Object} {out : Outcome (List Object)}
    (hevents : ∀ o ∈ events, IsEmitted env made o) (hheld : ∀ o ∈ held fs, IsEmitted env made o)
    (hends : Ends (finalDispatch env answer limit events).run fs h out fs') :
    AllTraceable env made h := by
  induction limit generalizing events fs h out with
  | zero =>
    cases events with
    | nil =>
      obtain ⟨rfl, -, -⟩ := ends_pure_run.mp hends
      exact allTraceable_nil
    | cons event rest => exact absurd hends not_ends_failure_run
  | succ limit ih =>
    cases events with
    | nil =>
      obtain ⟨rfl, -, -⟩ := ends_pure_run.mp hends
      exact allTraceable_nil
    | cons event rest =>
      rw [List.forall_mem_cons] at hevents
      unfold finalDispatch at hends
      by_cases hroute : isRoutedAndHandled env event = true
      · rw [if_pos hroute] at hends
        rcases ends_bind_run.mp hends with ⟨e, hlast, rfl⟩ | ⟨_, mid, h₁, h₂, hdispatch, hrest, rfl⟩
        · exact traceable_dispatch hanswer (.inl hevents.1) hlast
        · have hfirst := traceable_dispatch hanswer (.inl hevents.1) hdispatch
          have hmid : ∀ o ∈ held mid, IsEmitted env made o := fun o ho =>
            ((carried_dispatch hcarried event hdispatch).held o ho).elim (hheld o) (hfirst.queued o)
          obtain ⟨more, _, h₃, h₄, htake, hnext, rfl⟩ := ends_frames_bind.mp hrest
          obtain ⟨rfl, rfl, rfl⟩ := ends_takeRootEvents.mp htake
          obtain ⟨tail, htail, rfl⟩ := ends_bind_pure.mp hnext
          have hmore : ∀ o ∈ rest ++ rootEvents mid, IsEmitted env made o :=
            List.forall_mem_append.mpr ⟨hevents.2, fun o ho => hmid o (held_rootEvents ho)⟩
          have hlater := ih hmore (fun o ho => hmid o (held_emptyRoot ho)) htail
          exact allTraceable_append.mpr ⟨hfirst, hlater⟩
      · rw [if_neg hroute] at hends
        obtain ⟨tail, htail, rfl⟩ := ends_bind_pure.mp hends
        exact ih hevents.2 hheld htail

/-- The final events are those that the root command has left, and nothing is held before it. -/
theorem traceable_executeRoot {limit : Nat} {command : Object} {validated : Bool}
    {out : Outcome ExecutionOutcome}
    (hends : Ends (executeRoot env answer limit command validated).run fs h out fs') :
    AllTraceable env made h := by
  rcases ends_executeRoot_parts hends with ⟨-, rfl, -⟩ | ⟨h₁, raw, mid, -, hraw, hrest⟩
  · exact allTraceable_nil
  have hfirst := traceable_rawExecute hanswer hraw
  cases raw with
  | error e =>
    obtain ⟨-, rfl⟩ := hrest
    refine allTraceable_append.mpr ⟨allTraceable_cons.mpr ⟨trivial, hfirst⟩, ?_⟩
    exact allTraceable_mark trivial
  | ok result =>
    obtain ⟨h₂, events, left, hdispatch, -, rfl⟩ := hrest
    have hmid : ∀ o ∈ held mid, IsEmitted env made o := fun o ho =>
      ((carried_rawExecute hcarried command validated hraw).held o ho).elim nofun (hfirst.queued o)
    have hlater := traceable_finalDispatch hanswer hcarried
      (fun o ho => hmid o (held_rootEvents ho)) (fun o ho => hmid o (held_emptyRoot ho)) hdispatch
    have hboth := allTraceable_append.mpr ⟨hfirst, hlater⟩
    refine allTraceable_append.mpr ⟨allTraceable_cons.mpr ⟨trivial, hboth⟩, ?_⟩
    exact allTraceable_mark trivial

/-- A request in the set is traceable if those made on its behalf are. -/
theorem traceable_serve {limit : Nat} {q : ContextRequest} {reply : q.Reply}
    (hmade : made q fs = true) (hends : Ends (serve env answer limit q) fs h reply fs') :
    AllTraceable env made h := by
  cases q with
  | execute command =>
    obtain ⟨inner, hnested, -⟩ := ends_execute.mp hends
    exact traceable_executeNested hanswer hnested
  | executeWithEvents command stop => exact traceable_executeNested hanswer hends
  | executeRoot command => exact traceable_executeRoot hanswer hcarried hends
  | emit event => exact traceable_emit hanswer hmade hends
  | dispatch event => exact traceable_dispatch hanswer (.inr ⟨fs, .inl hmade⟩) hends
  | dispatchSafe event => exact traceable_dispatchSafe hanswer (.inr ⟨fs, .inr hmade⟩) hends
  | view =>
    obtain ⟨rfl, -⟩ := (ends_of_run rfl).mp hends
    exact allTraceable_nil
  | sign s =>
    obtain ⟨rfl, -⟩ := ends_lift.mp hends
    exact nofun

end Root
end Operations

/-! ## The whole chain -/

section Knot
variable (env : Environment D) (made : ContextRequest → List Frame → Bool)

theorem answered_performAllowing (n : Nat) :
    Answered env (performAllowing env made n) (emissions env n) :=
  fun q _ _ _ _ hends => answered_perform env n (below_performAllowing env made n q hends)

theorem traceable_performAllowing (n : Nat) : ∀ ⦃q fs h reply fs'⦄,
    Ends (performAllowing env made n q) fs h reply fs' → AllTraceable env made h := by
  induction n with
  | zero => exact fun _ _ _ _ _ hends => absurd hends not_ends_failure
  | succ n ih =>
    intro q fs h reply fs' hends
    obtain ⟨hmade, hserve⟩ := ends_allowing.mp hends
    exact traceable_serve ih (answered_performAllowing env made n) hmade hserve

end Knot

section Whole
variable {env : Environment D} {made : ContextRequest → List Frame → Bool}
  {before after : List Object} {h : List Happening} {es : List Emission}

/-- What is held after a run was held before or queued within it. -/
theorem Carries.stamped (hcarries : Carries env before h after es)
    (htraceable : AllTraceable env made h) : Stamped env made before h after where
  queued := htraceable.queued
  sunk := htraceable.sunk
  dispatched _ hm := htraceable _ hm
  handled _ _ hm := htraceable _ hm
  held o ho := (hcarries.held o ho).imp_right (htraceable.queued o)

/-! ### A single emission -/

/-- The requests of a set, and one emission. -/
def withEmission (made : ContextRequest → List Frame → Bool) (event : Object) (fs : List Frame) :
    ContextRequest → List Frame → Bool
  | .emit event', fs' => (event' == event && fs' == fs) || made (.emit event') fs'
  | q, fs' => made q fs'

theorem isEmitted_withEmission {event o : Object} {fs : List Frame} {top : Frame}
    (htop : fs.getLast? = some top) : IsEmitted env (withEmission made event fs) o ↔
      o = event.stamp top.command env.party ∨ IsEmitted env made o := by
  constructor
  · rintro ⟨event', fs', top', hmade, htop', rfl⟩
    rcases Bool.or_eq_true_iff.mp hmade with hown | hmade
    · obtain ⟨rfl, rfl⟩ : event' = event ∧ fs' = fs := by simpa using hown
      obtain rfl := Option.some.inj (htop'.symm.trans htop)
      exact .inl rfl
    · exact .inr ⟨event', fs', top', hmade, htop', rfl⟩
  · rintro (rfl | ⟨event', fs', top', hmade, htop', rfl⟩)
    · exact ⟨event, fs, top, by simp [withEmission], htop, rfl⟩
    · exact ⟨event', fs', top', Bool.or_eq_true_iff.mpr (.inr hmade), htop', rfl⟩

/-- Where an event is from is known as well if the origins are more. -/
theorem AllTraceable.withEmission {event : Object} {fs : List Frame}
    (htraceable : AllTraceable env made h) :
    AllTraceable env (withEmission made event fs) h := by
  have hemitted {o : Object} (ho : IsEmitted env made o) :
      IsEmitted env (Chain.withEmission made event fs) o := by
    obtain ⟨event', fs', top, hmade, htop, rfl⟩ := ho
    exact ⟨event', fs', top, Bool.or_eq_true_iff.mpr (.inr hmade), htop, rfl⟩
  intro m hm
  have hknown := htraceable m hm
  cases m with
  | queued | sunk => exact hemitted hknown
  | dispatching | eventHandler => exact hknown.imp_left hemitted
  | _ => trivial

/-- The origins of what is seen in the run of an emission are the emission itself and the requests
of the handlers that it reaches. -/
theorem emission_stamped {n : Nat} {event : Object} {fs fs' : List Frame} {out : Outcome Unit}
    (hends : Ends (emit env (performAllowing env made n) event).run fs h out fs') :
    Stamped env (withEmission made event fs) (held fs) h (held fs') := by
  have hmade : withEmission made event fs (.emit event) fs = true := by simp [withEmission]
  have hanswer : ∀ ⦃q fs₁ h reply fs₂⦄, Ends (performAllowing env made n q) fs₁ h reply fs₂ →
      AllTraceable env (withEmission made event fs) h :=
    fun _ _ _ _ _ hends => (traceable_performAllowing env made n hends).withEmission
  exact (carried_emit (answered_performAllowing env made n) event hends).stamped
    (traceable_emit hanswer hmade hends)

/-- **A stamp lasts.**  Whatever is requested, at any depth of nesting and on any frames: the events
that are put on frames, dispatched, given to the sink, held in the end or given to the caller are
those that were emitted, stamped with the command on top of the frames of their emission; those that
were held before the run and those that application code dispatches on its own account are the only
others.  So it is in the whole chain of a root command, which begins without frames.  And in the run
of a single emission, where `made` has the requests of the handlers that it reaches, the events that
these requests do not account for are all the one that was emitted.

Here `made` is any set of requests that has those of the run, and all requests is such a set.  An
event of a type that keeps stamps names the command and the party of its last emission.  And if
application code passes panics on, the frames that its programs make their requests on are their
own: that of the root command for the handlers of the final events. -/
theorem stamp_lasts (env : Environment D) :
    (∀ made n q fs h reply fs', Ends (performAllowing env made n q) fs h reply fs' →
      Stamped env made (held fs) h (held fs' ++ q.shown reply)) ∧
    (∀ made n limit command validated h out fs',
      Ends (executeRoot env (performAllowing env made n) limit command validated).run [] h out fs' →
        Stamped env made [] h (held fs' ++ (ContextRequest.executeRoot command).shown out)) ∧
    (∀ made n event fs top h out fs', fs.getLast? = some top →
      Ends (emit env (performAllowing env made n) event).run fs h out fs' →
        Stamped env (withEmission made event fs) (held fs) h (held fs') ∧
        ∀ o, IsEmitted env (withEmission made event fs) o ↔
          o = event.stamp top.command env.party ∨ IsEmitted env made o) ∧
    (∀ n, performAllowing env (fun _ _ => true) n = perform env n) ∧
    (∀ made o, IsEmitted env made o → o.body.keepsStamp = true →
      ∃ event fs top, made (.emit event) fs = true ∧ fs.getLast? = some top ∧
        o.body = event.body ∧ o.source? = some top.command ∧ o.party? = some env.party) ∧
    (env.registry.PassesPanics env.services → ∀ n, OwnFrames env (perform env n)) := by
  refine ⟨?_, ?_, ?_, performAllowing_true env, fun _ _ => IsEmitted.stamp, ownFrames_perform⟩
  · intro made n q fs h reply fs' hends
    exact (answered_performAllowing env made n hends).stamped
      (traceable_performAllowing env made n hends)
  · intro made n limit command validated h out fs' hends
    have hcarried := answered_performAllowing env made n
    exact (carries_executeRoot hcarried hends).stamped
      (traceable_executeRoot (traceable_performAllowing env made n) hcarried hends)
  · intro made n event fs top h out fs' htop hends
    exact ⟨emission_stamped hends, fun _ => isEmitted_withEmission htop⟩

end Whole

/-! ### Letters -/

namespace Postmarks

open Nested Alarmed

/-- An event of a type that keeps stamps. -/
def letter (type : String) (number : Int) : Object := .fresh ⟨⟨type, type⟩, true, number, ""⟩

/-- Emits a letter, and fails if this fails. -/
def posting (type : String) (number : Int) : ChainProgram Unit :=
  .ask (.emit (letter type number)) fun outcome => .done outcome

theorem posting_passesPanics (type : String) (number : Int) : (posting type number).PassesPanics :=
  .ask (fun _ _ hpanic => congrArg Program.done (Outcome.eq_of_panic? hpanic)) fun _ _ => .done _

/-- Posts the news before and after a visit. -/
def announcing : ChainProgram CommandResult := do
  posting "news" 1
  executing "visit"
  posting "memo" 2
  return .void

/-- Leaves a note for those who listen and a memo for the caller. -/
def visiting : ChainProgram CommandResult := do
  posting "note" 3
  posting "memo" 4
  return .void

/-- The visitor's letters come from the visit; the answer to the news comes when all is over. -/
def environment : Environment Unit :=
  { Environment.of (.of [descriptor "announce" .command (some announcing),
      descriptor "visit" .command (some visiting), descriptor "note" .callerOnlyImmediateEvent none,
      descriptor "memo" .callerOnlyEvent none, reaction "news" [posting "memo" 5]]) ()
    with sink := Ringing.environment.sink }

/-- Letters that are posted, with the commands that are in execution then, and the visit. -/
def made : ContextRequest → List Frame → Bool
  | .emit event, fs =>
    [("news", 1, ["announce"]), ("note", 3, ["announce", "visit"]),
      ("memo", 4, ["announce", "visit"]), ("memo", 2, ["announce"]),
      ("memo", 5, ["announce"])].contains
        (event.type.id, event.body.number, fs.map (·.command.type.id))
  | .execute _, _ => true
  | _, _ => false

def announce : Object := object "announce" 0
def visit : Object := object "visit" 0

theorem announcing_passesPanics : announcing.PassesPanics :=
  (posting_passesPanics "news" 1).bind fun _ => (executing_passesPanics "visit").bind fun _ =>
    (posting_passesPanics "memo" 2).bind fun _ => .done _

theorem visiting_passesPanics : visiting.PassesPanics :=
  (posting_passesPanics "note" 3).bind fun _ =>
    (posting_passesPanics "memo" 4).bind fun _ => .done _

theorem environment_passesPanics : environment.registry.PassesPanics environment.services := by
  have hmem : ∀ d ∈ environment.registry.descriptors,
      (∃ type kind handler, d = descriptor type kind handler ∧
        ∀ p, handler = some p → p.PassesPanics) ∨ d = reaction "news" [posting "memo" 5] := by
    intro d hd
    rcases List.mem_cons.mp hd with rfl | hd
    · exact .inl ⟨_, _, _, rfl, fun _ hp => Option.some.inj hp ▸ announcing_passesPanics⟩
    rcases List.mem_cons.mp hd with rfl | hd
    · exact .inl ⟨_, _, _, rfl, fun _ hp => Option.some.inj hp ▸ visiting_passesPanics⟩
    rcases List.mem_cons.mp hd with rfl | hd
    · exact .inl ⟨_, _, none, rfl, nofun⟩
    rcases List.mem_cons.mp hd with rfl | hd
    · exact .inl ⟨_, _, none, rfl, nofun⟩
    · exact .inr (List.mem_singleton.mp hd)
  constructor
  · intro d hd signature slot hslot
    rcases hmem d hd with ⟨type, kind, handler?, rfl, hpasses⟩ | rfl
    · cases handler? with
      | none => cases hslot
      | some p =>
        cases hslot
        exact Slot.all_pooled fun _ => hpasses p rfl
    · cases hslot
  · intro d hd slot hslot
    rcases hmem d hd with ⟨_, _, _, rfl, -⟩ | rfl <;> cases hslot
  · intro d hd slot hslot
    rcases hmem d hd with ⟨_, _, _, rfl, -⟩ | rfl
    · cases hslot
    · rw [List.mem_singleton.mp hslot]
      exact Slot.all_pooled fun _ => posting_passesPanics "memo" 5

theorem announce_returns : ∃ h outcome,
    Ends (executeRoot environment (performAllowing environment made 3) 9 announce false).run [] h
      (.ok outcome) [] ∧
    (sinkCalls h ++ outcome.events).map (fun o => (o.body.number, o.source?)) =
      [(3, some visit), (1, some announce), (4, some visit), (2, some announce),
        (5, some announce)] ∧
    (sinkCalls h ++ outcome.events).all (·.body.keepsStamp) = true :=
  ⟨_, _, rfl, rfl, rfl⟩

/-- The letters of the visit name the visit, also the memo that bubbled up to the announcement; the
others name the announcement, and so does the answer to the news. -/
theorem stamp_lasts_letters : environment.registry.PassesPanics environment.services ∧
    ∃ h outcome,
      Ends (executeRoot environment (performAllowing environment made 3) 9 announce false).run [] h
        (.ok outcome) [] ∧
      (sinkCalls h ++ outcome.events).map (fun o => (o.body.number, o.source?)) =
        [(3, some visit), (1, some announce), (4, some visit), (2, some announce),
          (5, some announce)] ∧
      (∀ o ∈ sinkCalls h ++ outcome.events, o.body.keepsStamp = true ∧
        ∃ event fs top, made (.emit event) fs = true ∧ fs.getLast? = some top ∧
          o.body = event.body ∧ o.source? = some top.command ∧ o.party? = some "local") ∧
      Ends (executeRoot environment (allowing (onFramesOf [announce]) (perform environment 3)) 9
        announce false).run [] h (.ok outcome) [] := by
  obtain ⟨-, hchains, -, -, hstamps, hown⟩ := stamp_lasts environment
  obtain ⟨h, outcome, hends, hsources, hkeep⟩ := announce_returns
  have hperform := below_executeRoot_allowing environment made 3 9 announce false hends
  have hstamped := hchains made 3 9 announce false h (.ok outcome) [] hends
  refine ⟨environment_passesPanics, h, outcome, hends, hsources, fun o ho => ?_,
    (hown environment_passesPanics 3).root hperform⟩
  have hkeeps : o.body.keepsStamp = true := List.all_eq_true.mp hkeep o ho
  have hemitted : IsEmitted environment made o := by
    rcases List.mem_append.mp ho with hsunk | hevent
    · exact hstamped.sunk o hsunk
    · exact (hstamped.held o hevent).resolve_left nofun
  exact ⟨hkeeps, hstamps made o hemitted hkeeps⟩

/-- Executes a command that breaks, and takes no notice of what became of it. -/
def shrugging : ChainProgram Unit :=
  .ask (.execute (object "broken" 0)) fun _ => posting "note" 2

/-- Posts the news. -/
def reporting : ChainProgram CommandResult := do
  posting "news" 1
  return .void

/-- The news are answered by a handler that contains a panic itself. -/
def careless : Environment Unit :=
  { Environment.of (.of [descriptor "announce" .command (some reporting),
      descriptor "broken" .command (some (.raise (.panic (.text "broken")))),
      descriptor "note" .callerOnlyImmediateEvent none, reaction "news" [shrugging]]) ()
    with sink := Ringing.environment.sink }

/-- **A panic that application code contains leaves its frames behind.**  The handler of a final
event emits a note, and the note names a command that is long over: its frame is still above that of
the root command. -/
theorem note_names_broken_command : ∃ h outcome,
    Ends (executeRoot careless (perform careless 3) 9 announce false).run [] h (.ok outcome) [] ∧
    marks h = [.opened announce, .handler announce,
      .queued ((letter "news" 1).stamp announce "local"),
      .dispatching ((letter "news" 1).stamp announce "local"),
      .eventHandler ((letter "news" 1).stamp announce "local") 0,
      .opened (object "broken" 0), .handler (object "broken" 0),
      .sunk ((letter "note" 2).stamp (object "broken" 0) "local"), .ended] ∧
    ((letter "note" 2).stamp (object "broken" 0) "local").source? = some (object "broken" 0) ∧
    ((letter "note" 2).stamp (object "broken" 0) "local").source? ≠ some announce :=
  ⟨_, _, rfl, rfl, rfl, by decide⟩

end Postmarks
end Chain
end CommandEngine
