import CommandEngine.Proofs.Chain.Survival
import CommandEngine.Proofs.Validation.Order

/-!
# What is true of the parts of an operation

Most operations of a chain neither open nor close a frame themselves: they are sequences of code that
stands outside the chain, of programs, and of events that are put on the frame on top.  So a property
that these parts have, and that sequences inherit, is one of all such operations
(`Compositional`).  What remains for each property is to look at nested and root commands and at
safe dispatches, which move frames.

The programs are those that the services of a registry give, so it is enough that their runs have
the property (`Registry.Gives`).  Services are obtained, objects are validated and sinks are called
outside the chain.  None of this can make a request of the context, so all the marks it leaves are
quiet: they have to do neither with frames nor with the events that wait on them
(`Account.Quiet`).
-/
namespace CommandEngine

/-! ## What leaves the frames alone -/

theorem Mark.isQuiet_of_isValidating {m : Mark} (hm : m.isValidating) : m.isQuiet := by
  cases m with
  | opened | closed | cut | ended | queued => cases hm
  | _ => rfl

/-- The computation leaves quiet marks only. -/
def Account.Quiet {α : Type} (a : Account α) : Prop := a.Leaves fun m => m.isQuiet

theorem Account.quiet_receive (sink : Sink) (event : Object) : (sink.receive event).Quiet := by
  intro m hm
  obtain ⟨call, rfl⟩ := sink.outside event m (Chain.mem_marks.mp hm)
  rfl

theorem Validation.quiet_handling {D : Type} (registry : Registry D) (services : D) (token : Token)
    (o : Object) : Account.Quiet (handling registry services token o).run :=
  (handling_validates registry services token o).1.mono fun _ => Mark.isQuiet_of_isValidating

/-! ## What a registry gives -/

theorem Registry.mem_of_descriptorOf? {D : Type} {r : Registry D} {o : Object} {d : Descriptor D}
    (hfind : r.descriptorOf? o = some d) : d ∈ r.descriptors := by
  obtain ⟨i, -, hd⟩ := Option.bind_eq_some_iff.mp hfind
  exact List.mem_of_getElem? hd

/-- Services that a slot gives are such that something is true of them. -/
def Slot.All {D T : Type} (slot : Slot D T) (services : D) (P : T → Prop) : Prop :=
  ∀ service, (slot.resolve services).outcome = .ok service → P service

theorem Slot.all_pooled {D T : Type} {service : T} {services : D} {P : T → Prop}
    (hservice : P service) : (Slot.pooled service).All services P := by
  intro given hgiven
  cases hgiven
  exact hservice

/-- Something is true of all programs of a chain that the services of a registry give. -/
structure Registry.Gives {D : Type} (r : Registry D) (services : D)
    (Good : ∀ {α : Type}, ChainProgram α → Prop) : Prop where
  handlers : ∀ d ∈ r.descriptors, ∀ signature slot, d.handler = some (signature, slot) →
    slot.All services fun handler => ∀ command, Good (handler services command)
  postHandlers : ∀ d ∈ r.descriptors, ∀ slot ∈ d.postHandlers,
    slot.All services fun post => ∀ command result, Good (post services command result)
  eventHandlers : ∀ d ∈ r.descriptors, ∀ slot ∈ d.eventHandlers,
    slot.All services fun handler => ∀ event, Good (handler services event)

namespace Chain

/-- A property of the basic operations that sequences inherit. -/
structure Compositional (P : ∀ {α : Type}, Chain α → Prop) : Prop where
  outcome : ∀ {α : Type} (outcome : Outcome α), P (ofOutcome outcome)
  quiet : ∀ {α : Type} {a : Account α}, a.Quiet → P (liftM a : Chain α)
  get : P (get : Chain (List Frame))
  queue : ∀ event, P (do
    modify (joinTop [event])
    Account.mark (.queued event))
  /-- The second part may be known to begin with what the first part can end in. -/
  bind_of : ∀ {α β : Type} {x : Chain α} {f : α → Chain β}, P x →
    (∀ {fs h a fs'}, Ends x.run fs h (.ok a) fs' → P (f a)) → P (x >>= f)

variable {D α β : Type} {env : Environment D} {P : ∀ {α : Type}, Chain α → Prop}

namespace Compositional

section Basic
variable (hP : Compositional P)
include hP

theorem bind {x : Chain α} {f : α → Chain β} (hx : P x) (hf : ∀ a, P (f a)) : P (x >>= f) :=
  hP.bind_of hx fun _ => hf _

theorem pure (a : α) : P (Pure.pure a : Chain α) := hP.outcome (.ok a)

theorem throw (e : Raise) : P (MonadExcept.throw e : Chain α) := hP.outcome (.error e)

theorem map {x : Chain α} (hx : P x) (f : α → β) : P (f <$> x) := by
  rw [← bind_pure_comp]
  exact hP.bind hx fun _ => hP.pure _

theorem act (a : Act α) : P (Chain.act a) :=
  hP.bind (hP.quiet (Account.leaves_act a)) fun outcome => hP.outcome outcome

/-- A check that throws when it fails. -/
theorem check {c : Prop} [Decidable c] {e : Raise} {x : Unit → Chain α} (hx : P (x ())) :
    P (if c then x () else MonadExcept.throw e >>= x) := by
  by_cases hc : c
  · rw [if_pos hc]
    exact hx
  · rw [if_neg hc]
    exact hP.bind (hP.throw e) fun _ => hx

theorem require (o : Object) : P (Chain.require env o) := by
  unfold Chain.require
  cases env.registry.require o with
  | ok d => exact hP.pure d
  | error e => exact hP.throw _

theorem notify (event : Object) : P (Chain.notify env event) := by
  unfold Chain.notify
  cases env.sink with
  | none => exact hP.pure ()
  | some sink =>
    refine hP.bind (hP.quiet (Account.leaves_mark rfl)) fun _ => ?_
    exact hP.bind (hP.quiet (Account.quiet_receive sink event)) fun outcome => hP.outcome outcome

theorem validate (command : Object) (typeName : String) :
    P (Chain.validate env command typeName) := by
  refine hP.bind (hP.quiet (Validation.quiet_handling _ _ _ command)) fun outcome => ?_
  refine hP.bind (hP.outcome outcome) fun result => ?_
  by_cases hsuccess : result.success = true
  · rw [if_pos hsuccess]
    exact hP.pure ()
  · rw [if_neg hsuccess]
    exact hP.throw _

/-- A service that is obtained is one that its slot gives. -/
theorem resolve {T : Type} {slot : Slot D T} {Q : T → Prop} {f : T → Chain α}
    (hslot : slot.All env.services Q) (hf : ∀ service, Q service → P (f service)) :
    P (Chain.act (slot.resolve env.services) >>= f) := by
  refine hP.bind_of (hP.act _) fun hends => hf _ (hslot _ ?_)
  exact (ends_act.mp hends).2.1.symm

end Basic

/-- The descriptor that is found is one of the registry. -/
theorem mem_of_require {o : Object} {d : Descriptor D} {fs fs' : List Frame}
    {h : List Happening} (hends : Ends (Chain.require env o).run fs h (.ok d) fs') :
    d ∈ env.registry.descriptors := by
  unfold Chain.require at hends
  split at hends
  · rename_i d' hrequire
    obtain ⟨-, hd, -⟩ := ends_pure_run.mp hends
    cases hd
    unfold Registry.require at hrequire
    split at hrequire
    · rename_i found hfound
      cases hrequire
      exact Registry.mem_of_descriptorOf? hfound
    · cases hrequire
  · obtain ⟨-, hd, -⟩ := ends_throw_run.mp hends
    cases hd

/-! ## Operations that run programs -/

section Programs
variable {answer : (q : ContextRequest) → OnStack q.Reply} (hP : Compositional P)
  {Good : ∀ {α : Type}, ChainProgram α → Prop}
  (hrun : ∀ {α : Type} {p : ChainProgram α}, Good p → P (runProgram answer p))
include hP hrun

theorem callEventHandlers {event : Object} {slots : List (Slot D (EventHandler D) × Nat)}
    (hslots : ∀ slot ∈ slots,
      slot.1.All env.services fun handler => ∀ event, Good (handler env.services event)) :
    P (Chain.callEventHandlers env answer event slots) := by
  induction slots with
  | nil => exact hP.pure ()
  | cons slot rest ih =>
    rw [List.forall_mem_cons] at hslots
    refine hP.resolve hslots.1 fun handler hhandler => ?_
    refine hP.bind (hP.quiet (Account.leaves_mark rfl)) fun _ => ?_
    exact hP.bind (hrun (hhandler event)) fun _ => ih hslots.2

theorem callPostHandlers {command : Object} {result : CommandResult}
    {slots : List (Slot D (PostHandler D) × Nat)}
    (hslots : ∀ slot ∈ slots, slot.1.All env.services fun post =>
      ∀ command result, Good (post env.services command result)) :
    P (Chain.callPostHandlers env answer command result slots) := by
  induction slots with
  | nil => exact hP.pure ()
  | cons slot rest ih =>
    rw [List.forall_mem_cons] at hslots
    refine hP.resolve hslots.1 fun post hpost => ?_
    refine hP.bind (hP.quiet (Account.leaves_mark rfl)) fun _ => ?_
    exact hP.bind (hrun (hpost command result)) fun _ => ih hslots.2

variable (hgives : env.registry.Gives env.services Good)
include hgives

theorem dispatch (event : Object) : P (Chain.dispatch env answer event) := by
  refine hP.bind_of (hP.require event) fun hrequire => hP.check ?_
  refine hP.bind (hP.quiet (Account.leaves_mark rfl)) fun _ => ?_
  refine hP.callEventHandlers hrun fun slot hslot => ?_
  exact hgives.eventHandlers _ (mem_of_require hrequire) _ (List.fst_mem_of_mem_zipIdx hslot)

/-- An emission queues the event, gives it away at once, or fails. -/
theorem emit (event : Object) : P (Chain.emit env answer event) := by
  refine hP.bind hP.get fun frames => ?_
  cases frames.getLast? with
  | none => exact hP.throw _
  | some top =>
    refine hP.bind (hP.require _) fun d => ?_
    cases d.kind with
    | command => exact hP.throw _
    | commandWithResult => exact hP.throw _
    | routedEvent => exact hP.queue _
    | callerOnlyEvent => exact hP.queue _
    | callerOnlyImmediateEvent => exact hP.notify _
    | routedImmediateEvent =>
      dsimp only
      by_cases hhandled : d.isHandled = true
      · rw [if_pos hhandled]
        exact hP.bind (hP.dispatch hrun hgives _) fun _ => hP.notify _
      · rw [if_neg hhandled]
        exact hP.notify _

theorem rawExecute (command : Object) (validated : Bool) :
    P (Chain.rawExecute env answer command validated) := by
  refine hP.bind_of (hP.require command) fun {_ _ d _} hrequire => hP.check ?_
  cases hhandler : d.handler with
  | none => exact hP.throw _
  | some elected =>
    have hmem := mem_of_require hrequire
    have hhandle : P (do
        let handler ← Chain.act (elected.2.resolve env.services)
        Account.mark (.handler command)
        let result ← runProgram answer (handler env.services command)
        Chain.callPostHandlers env answer command result d.postHandlers.zipIdx
        return result) := by
      refine hP.resolve (hgives.handlers d hmem elected.1 _ hhandler) fun handler hgood => ?_
      refine hP.bind (hP.quiet (Account.leaves_mark rfl)) fun _ => ?_
      refine hP.bind (hrun (hgood command)) fun result => ?_
      refine hP.bind (hP.callPostHandlers hrun fun slot hslot => ?_) fun _ => hP.pure result
      exact hgives.postHandlers d hmem _ (List.fst_mem_of_mem_zipIdx hslot)
    cases validated with
    | true => exact hhandle
    | false => exact hP.bind (hP.validate command _) fun _ => hhandle

end Programs
end Compositional
end Chain
end CommandEngine
