import CommandEngine.Proofs.Chain.Callers
import CommandEngine.Proofs.Chain.Emission
import CommandEngine.Proofs.Registry.Table

/-!
# A dispatch and a safe dispatch side by side

A dispatch runs the handlers of an event down their row.  How far it gets is said of the row as a
whole (`Course`): either all handlers return, or the row is split at the first one that does not,
and those behind it are never reached.  An event whose type is unknown, or is no event, has no row.

A safe dispatch is that very dispatch with its outcome contained, so the two have their handlers and
effects in common, and are compared at the point where the dispatch has ended (`Abreast`).  After a
return or a failure there is nothing to make good: the frames are those that the dispatch left, and
a failure is recorded.  A panic may have come out of nested commands at any depth, whose frames
nobody closed.  The frames from before the dispatch are below these and have got at most further
events on top, whatever the handlers did (`extends_perform`), so dropping what is above the old depth
leaves just them.
-/
namespace CommandEngine
namespace Chain

variable {D : Type} {env : Environment D} {answer : (q : ContextRequest) → OnStack q.Reply}
  {event : Object} {fs mid fs' : List Frame} {h h₁ h₂ : List Happening} {out : Outcome Unit}
  {slot : Slot D (EventHandler D) × Nat} {before rest : List (Slot D (EventHandler D) × Nat)}

/-! ## How far a dispatch gets -/

/-- The handlers return one after the other, each begun on the frames that the one before left. -/
inductive Served (env : Environment D) (answer : (q : ContextRequest) → OnStack q.Reply)
    (event : Object) : List (Slot D (EventHandler D) × Nat) →
      List Frame → List Happening → List Frame → Prop where
  | none (fs : List Frame) : Served env answer event [] fs [] fs
  | next {slot : Slot D (EventHandler D)} {handler : EventHandler D} {index : Nat}
    {rest : List (Slot D (EventHandler D) × Nat)} {fs mid fs' : List Frame}
    {h₁ h₂ : List Happening} (hresolve : (slot.resolve env.services).outcome = .ok handler)
    (hrun : Ends (runProgram answer (handler env.services event)).run fs h₁ (.ok ()) mid)
    (hrest : Served env answer event rest mid h₂ fs') :
    Served env answer event ((slot, index) :: rest) fs
      (resolving env slot ++ .mark (.eventHandler event index) :: (h₁ ++ h₂)) fs'

/-- A handler does not return: it is not obtained, or its program raises something. -/
inductive Breaks (env : Environment D) (answer : (q : ContextRequest) → OnStack q.Reply)
    (event : Object) : Slot D (EventHandler D) × Nat →
      List Frame → List Happening → Raise → List Frame → Prop where
  | unresolved {slot : Slot D (EventHandler D)} {index : Nat} {fs : List Frame} {e : Raise}
    (hresolve : (slot.resolve env.services).outcome = .error e) :
    Breaks env answer event (slot, index) fs (resolving env slot) e fs
  | raised {slot : Slot D (EventHandler D)} {handler : EventHandler D} {index : Nat}
    {fs fs' : List Frame} {h : List Happening} {e : Raise}
    (hresolve : (slot.resolve env.services).outcome = .ok handler)
    (hrun : Ends (runProgram answer (handler env.services event)).run fs h (.error e) fs') :
    Breaks env answer event (slot, index) fs
      (resolving env slot ++ .mark (.eventHandler event index) :: h) e fs'

/-- The course of a dispatch down the row of handlers: all of them return, or those in front of the
first that does not, and those behind it never begin. -/
inductive Course (env : Environment D) (answer : (q : ContextRequest) → OnStack q.Reply)
    (event : Object) (slots : List (Slot D (EventHandler D) × Nat)) (fs : List Frame) :
      List Happening → Outcome Unit → List Frame → Prop where
  | all {h : List Happening} {fs' : List Frame} (hserved : Served env answer event slots fs h fs') :
    Course env answer event slots fs h (.ok ()) fs'
  | stopped {before after : List (Slot D (EventHandler D) × Nat)}
    {slot : Slot D (EventHandler D) × Nat} {mid fs' : List Frame} {h₁ h₂ : List Happening}
    {e : Raise} (hslots : slots = before ++ slot :: after)
    (hserved : Served env answer event before fs h₁ mid)
    (hbreaks : Breaks env answer event slot mid h₂ e fs') :
    Course env answer event slots fs (h₁ ++ h₂) (.error e) fs'

theorem Course.first {e : Raise} (hbreaks : Breaks env answer event slot fs h e fs') :
    Course env answer event (slot :: rest) fs h (.error e) fs' := by
  have hslots : slot :: rest = [] ++ slot :: rest := rfl
  exact .stopped hslots (.none fs) hbreaks

theorem Breaks.eventHandling {e : Raise} (hbreaks : Breaks env answer event slot fs h e fs') :
    EventHandling env answer event (slot :: rest) fs h (.error e) fs' := by
  cases hbreaks with
  | unresolved hresolve => exact .unresolved hresolve
  | raised hresolve hrun => exact .raised hresolve hrun

/-- Handlers that return are followed by the rest of the row. -/
theorem Served.eventHandling (hserved : Served env answer event before fs h₁ mid)
    (hrest : EventHandling env answer event rest mid h₂ out fs') :
    EventHandling env answer event (before ++ rest) fs (h₁ ++ h₂) out fs' := by
  induction hserved with
  | none => exact hrest
  | next hresolve hrun _ ih =>
    rw [List.cons_append, List.append_assoc, List.cons_append, List.append_assoc]
    exact .next hresolve hrun (ih hrest)

/-- **The course of a dispatch is the handling of its event.** -/
theorem eventHandling_iff_course {slots : List (Slot D (EventHandler D) × Nat)} :
    EventHandling env answer event slots fs h out fs' ↔
      Course env answer event slots fs h out fs' := by
  constructor
  · intro hhandling
    induction hhandling with
    | none fs => exact .all (.none fs)
    | unresolved hresolve => exact .first (.unresolved hresolve)
    | raised hresolve hrun => exact .first (.raised hresolve hrun)
    | next hresolve hrun _ ih =>
      -- the first handler returned, so the row is split where the rest of it is
      cases ih with
      | all hserved => exact .all (.next hresolve hrun hserved)
      | stopped hslots hserved hbreaks =>
        rw [hslots, ← List.cons_append, ← List.append_assoc, ← List.cons_append,
          ← List.append_assoc]
        exact .stopped rfl (.next hresolve hrun hserved) hbreaks
  · intro hcourse
    cases hcourse with
    | all hserved =>
      have hall := hserved.eventHandling (.none fs')
      rwa [List.append_nil, List.append_nil] at hall
    | stopped hslots hserved hbreaks =>
      subst hslots
      exact hserved.eventHandling hbreaks.eventHandling

/-- What a dispatch comes to, whatever is dispatched. -/
inductive Dispatching (env : Environment D) (answer : (q : ContextRequest) → OnStack q.Reply)
    (event : Object) (fs : List Frame) : List Happening → Outcome Unit → List Frame → Prop where
  | unknown (hunknown : env.registry.descriptorOf? event = none) :
    Dispatching env answer event fs [] (.error (EngineError.unknownType event.type.name : Raise)) fs
  | notEvent {d : Descriptor D} (hd : env.registry.descriptorOf? event = some d)
    (hkind : d.kind.isEvent = false) :
    Dispatching env answer event fs []
      (.error (EngineError.kindMismatch d.type.name "event" d.kind : Raise)) fs
  | handled {d : Descriptor D} {h : List Happening} {out : Outcome Unit} {fs' : List Frame}
    (hd : env.registry.descriptorOf? event = some d) (hkind : d.kind.isEvent = true)
    (hcourse : Course env answer event d.eventHandlers.zipIdx fs h out fs') :
    Dispatching env answer event fs (.mark (.dispatching event) :: h) out fs'

theorem ends_dispatch_unknown (hunknown : env.registry.descriptorOf? event = none) :
    Ends (dispatch env answer event).run fs h out fs' ↔
      h = [] ∧ out = .error (EngineError.unknownType event.type.name : Raise) ∧ fs' = fs := by
  rw [dispatch, require_of_unknown hunknown, ends_throw_bind]

theorem ends_dispatch_notEvent {d : Descriptor D} (hd : env.registry.descriptorOf? event = some d)
    (hkind : d.kind.isEvent = false) : Ends (dispatch env answer event).run fs h out fs' ↔
      h = [] ∧ out = .error (EngineError.kindMismatch d.type.name "event" d.kind : Raise) ∧
        fs' = fs := by
  rw [dispatch, require_of_found hd, pure_bind, if_neg (Bool.eq_false_iff.mp hkind),
    ends_throw_bind]

theorem ends_dispatch_iff : Ends (dispatch env answer event).run fs h out fs' ↔
    Dispatching env answer event fs h out fs' := by
  constructor
  · intro hends
    cases hd : env.registry.descriptorOf? event with
    | none =>
      obtain ⟨rfl, rfl, rfl⟩ := (ends_dispatch_unknown hd).mp hends
      exact .unknown hd
    | some d =>
      cases hkind : d.kind.isEvent with
      | false =>
        obtain ⟨rfl, rfl, rfl⟩ := (ends_dispatch_notEvent hd hkind).mp hends
        exact .notEvent hd hkind
      | true =>
        obtain ⟨rest, hhandling, rfl⟩ := (ends_dispatch hd hkind).mp hends
        exact .handled hd hkind (eventHandling_iff_course.mp hhandling)
  · intro hdispatching
    cases hdispatching with
    | unknown hunknown => exact (ends_dispatch_unknown hunknown).mpr ⟨rfl, rfl, rfl⟩
    | notEvent hd hkind => exact (ends_dispatch_notEvent hd hkind).mpr ⟨rfl, rfl, rfl⟩
    | handled hd hkind hcourse =>
      exact (ends_dispatch hd hkind).mpr ⟨_, eventHandling_iff_course.mpr hcourse, rfl⟩

/-- In a registry that was built, the handlers of an event are those registered for its type, in the
order of the registrations. -/
theorem eventHandlers_of_build {calls : List (BuilderCall D)} {r : Registry D} {d : Descriptor D}
    (hbuild : (RegistryBuilder.ofCalls calls).build = .ok r)
    (hd : r.descriptorOf? event = some d) :
    d.eventHandlers = BuilderCall.madeFor BuilderCall.eventHandler? event.type calls := by
  rw [RegistryBuilder.ofCalls_eq_told] at hbuild
  obtain ⟨hmem, hid⟩ := (RegistryBuilder.descriptor?_eq_some_iff hbuild).mp hd
  have hregistered := ((RegistryBuilder.build_ok_iff.mp hbuild).2.2.2.2 d hmem).event
  rw [hregistered, BuilderCall.madeFor, ← hid]
  exact RegistryBuilder.registered_filterMap _ _

/-! ## The two dispatches -/

/-- A dispatch whose outcome is contained is a safe dispatch. -/
theorem ends_dispatchSafe_of_contained {returned : Bool}
    (hdispatch : Ends (dispatch env answer event).run fs h₁ out mid)
    (hcontained : Contained env event fs.length mid out h₂ returned fs') :
    Ends (dispatchSafe env answer event) fs (h₁ ++ h₂) returned fs' := by
  rw [dispatchSafe, ends_frames]
  refine ends_bind.mpr ⟨out, mid, h₁, h₂, hdispatch, ?_, rfl⟩
  cases hcontained with
  | returned => exact ends_pure.mpr ⟨rfl, rfl, rfl⟩
  | failed f => exact (ends_of_run rfl).mpr ⟨rfl, rfl, rfl⟩
  | panicked p => exact (ends_of_run rfl).mpr ⟨rfl, rfl, rfl⟩

/-- **A dispatch and a safe dispatch of an event, both begun on the same frames.**  What happens in
the first of them happens in the second. -/
inductive Abreast (env : Environment D) (n : Nat) (event : Object) (fs : List Frame) : Prop where
  /-- The requests are nested deeper than the bound. -/
  | exhausted (hraw : ∀ h out fs', ¬ Ends (perform env n (.dispatch event)) fs h out fs')
    (hsafe : ∀ h returned fs', ¬ Ends (perform env n (.dispatchSafe event)) fs h returned fs')
  | returned {h : List Happening} {fs' : List Frame}
    (hraw : Ends (perform env n (.dispatch event)) fs h (.ok ()) fs')
    (hsafe : Ends (perform env n (.dispatchSafe event)) fs h true fs')
  /-- The failure is recorded, and the frames stay. -/
  | failed {h : List Happening} {f : Failure} {fs' : List Frame}
    (hraw : Ends (perform env n (.dispatch event)) fs h (.error (.failure f)) fs')
    (hsafe : Ends (perform env n (.dispatchSafe event)) fs
      (h ++ [.log (.dispatchFailed env.token event.type.name f)]) false fs')
  /-- The panic is recorded.  The frames above the old depth are dropped, and the others, which are
  those from before with further events on the top one, stay as the panic left them. -/
  | panicked {h : List Happening} {p : Panic} {events : List Object} {above : List Frame}
    (hraw : Ends (perform env n (.dispatch event)) fs h (.error (.panic p))
      (joinTop events fs ++ above))
    (hsafe : Ends (perform env n (.dispatchSafe event)) fs
      (h ++ [.mark (.cut fs.length), .log (.eventHandlerPanicked env.token event.type.name p)])
      false (joinTop events fs))

theorem abreast (env : Environment D) (n : Nat) (event : Object) (fs : List Frame) :
    Abreast env n event fs := by
  cases n with
  | zero => exact .exhausted (fun _ _ _ => not_ends_failure) fun _ _ _ => not_ends_failure
  | succ n =>
    by_cases hsome : ∃ h out mid, Ends (dispatch env (perform env n) event).run fs h out mid
    · obtain ⟨h, out, mid, hraw⟩ := hsome
      rcases out with (f | p) | _
      · exact .failed hraw (ends_dispatchSafe_of_contained hraw (.failed f))
      · obtain ⟨events, above, rfl⟩ := extending_dispatch (extends_perform n) event hraw
        have hsafe := ends_dispatchSafe_of_contained hraw (.panicked p)
        have hlength : (joinTop events fs).length = fs.length := length_joinTop
        rw [← hlength, List.take_left, hlength] at hsafe
        exact .panicked hraw hsafe
      · have hsafe := ends_dispatchSafe_of_contained hraw .returned
        rw [List.append_nil] at hsafe
        exact .returned hraw hsafe
    · refine .exhausted (fun h out fs' hends => hsome ⟨h, out, fs', hends⟩) ?_
      intro h returned fs' hends
      obtain ⟨out, mid, h₁, -, hraw, -⟩ := ends_dispatchSafe hends
      exact hsome ⟨h₁, out, mid, hraw⟩

/-- **A safe dispatch simulates a dispatch.**  On any frames, inside a chain or outside, a dispatch
runs the handlers of the event in their order, each once, up to the first that does not return, and
the handlers of a built registry are in the order of their registrations.  A safe dispatch does what
the dispatch does, tells whether it returned, and lets nothing escape; it leaves the same frames but
for those that a panic left above the old ones. -/
theorem dispatchSafe_simulates (env : Environment D) (n : Nat) (event : Object) :
    (∀ fs h out fs', Ends (perform env (n + 1) (.dispatch event)) fs h out fs' ↔
      Dispatching env (perform env n) event fs h out fs') ∧
    (∀ calls d, (RegistryBuilder.ofCalls calls).build = .ok env.registry →
      env.registry.descriptorOf? event = some d →
        d.eventHandlers = BuilderCall.madeFor BuilderCall.eventHandler? event.type calls) ∧
    ∀ fs, Abreast env n event fs :=
  ⟨fun _ _ _ _ => ends_dispatch_iff, fun _ _ => eventHandlers_of_build, abreast env n event⟩

/-- The command that breaks leaves a frame with an event.  A safe dispatch drops it, and keeps the
event of the handler before. -/
example : ∃ h mid fs',
    Ends (perform Alarmed.environment 3 (.dispatch (Nested.object "alarm" 0))) Alarmed.frames h
      (.error (.panic (.text "broken"))) mid ∧
    Ends (perform Alarmed.environment 3 (.dispatchSafe (Nested.object "alarm" 0))) Alarmed.frames
      (h ++ [.mark (.cut 2), .log (.eventHandlerPanicked .absent "alarm" (.text "broken"))])
      false fs' ∧
    mid.map (·.pending.length) = [1, 2, 1] ∧ fs'.map (·.pending.length) = [1, 2] :=
  ⟨_, _, _, rfl, rfl, rfl, rfl⟩

end Chain
end CommandEngine
