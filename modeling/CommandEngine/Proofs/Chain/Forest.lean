import CommandEngine.Proofs.Chain.Emission

/-!
# The emissions of a run

The immediate events of a run are read off it as a forest (`Emission`): an emission has below it
those that were made while its event was dispatched, in the order in which they began.  Read from
below (`Emission.ends`), the forest has the events in the order in which their dispatches ended.

`Emissions` reads the forest off a computation from the frames it is begun on, and follows the
operations of a chain: what a program emits is what the answers to its requests do, and an emission
of an immediate event is a tree of its own.  `emissions` is the forest of a request at a depth of
nesting.

Beside the forest, the history of a run tells which events went to the sink and which were put on
frames.
-/
namespace CommandEngine

namespace Mark

/-- The event that a mark gives to the sink. -/
def sunk? : Mark → Option Object
  | sunk event => some event
  | _ => none

/-- A mark of a step that moves no event. -/
def isIdle : Mark → Bool
  | sunk _ | queued _ => false
  | _ => true

theorem sunk?_of_isIdle {m : Mark} (hm : m.isIdle) : m.sunk? = none := by
  cases m with
  | sunk => cases hm
  | _ => rfl

theorem queued?_of_isIdle {m : Mark} (hm : m.isIdle) : m.queued? = none := by
  cases m with
  | queued => cases hm
  | _ => rfl

theorem isIdle_of_isValidating {m : Mark} (hm : m.isValidating) : m.isIdle := by
  cases m with
  | sunk | queued => cases hm
  | _ => rfl

end Mark

namespace Environment

variable {D : Type} (env : Environment D)

/-- An event of a type that is delivered when it is emitted. -/
def IsImmediate (event : Object) : Prop :=
  ∃ d, env.registry.descriptorOf? event = some d ∧ d.kind.isImmediate = true

/-- An event of a type that waits on a frame when it is emitted. -/
def IsWaiting (event : Object) : Prop :=
  ∃ d, env.registry.descriptorOf? event = some d ∧
    (d.kind = .routedEvent ∨ d.kind = .callerOnlyEvent)

theorem IsWaiting.not_immediate {env : Environment D} {event : Object}
    (hwaiting : env.IsWaiting event) : ¬ env.IsImmediate event := by
  rintro ⟨d, hd, himmediate⟩
  obtain ⟨d', hd', hkind⟩ := hwaiting
  cases hd.symm.trans hd'
  rcases hkind with hkind | hkind
  · rw [hkind] at himmediate
    cases himmediate
  · rw [hkind] at himmediate
    cases himmediate

end Environment

/-- The events that a reply shows. -/
def ContextRequest.shown : (q : ContextRequest) → q.Reply → List Object
  | executeWithEvents _ _, .ok (_, events) => events
  | executeRoot _, .ok outcome => outcome.events
  | view, seen => seen.frames.flatMap (·.pending)
  | _, _ => []

namespace Chain

/-! ## What a history tells of events -/

section History
variable {h h₁ h₂ : List Happening}

/-- The events that were given to the sink. -/
def sinkCalls (h : List Happening) : List Object := (marks h).filterMap Mark.sunk?

/-- The events that were put on frames. -/
def queuedEvents (h : List Happening) : List Object := (marks h).filterMap Mark.queued?

theorem sinkCalls_append : sinkCalls (h₁ ++ h₂) = sinkCalls h₁ ++ sinkCalls h₂ := by
  rw [sinkCalls, marks_append, List.filterMap_append, sinkCalls, sinkCalls]

theorem queuedEvents_append : queuedEvents (h₁ ++ h₂) = queuedEvents h₁ ++ queuedEvents h₂ := by
  rw [queuedEvents, marks_append, List.filterMap_append, queuedEvents, queuedEvents]

/-- No event is moved. -/
def Idle (h : List Happening) : Prop := ∀ m ∈ marks h, m.isIdle

theorem Idle.sinkCalls (hidle : Idle h) : sinkCalls h = [] :=
  List.filterMap_eq_nil_iff.mpr fun m hm => Mark.sunk?_of_isIdle (hidle m hm)

theorem Idle.queuedEvents (hidle : Idle h) : queuedEvents h = [] :=
  List.filterMap_eq_nil_iff.mpr fun m hm => Mark.queued?_of_isIdle (hidle m hm)

theorem idle_nil : Idle [] := nofun

theorem idle_mark {m : Mark} (hm : m.isIdle) : Idle [.mark m] := List.forall_mem_singleton.mpr hm

/-- What the sink leaves in the history are calls of hooks. -/
theorem idle_receive (sink : Sink) (event : Object) : Idle (sink.receive event).history := by
  intro m hm
  obtain ⟨call, rfl⟩ := sink.outside event m (mem_marks.mp hm)
  rfl

section Given
variable {D : Type} {env : Environment D} {event : Object} {out : Outcome Unit}

theorem Given.sinkCalls (hgiven : Given env event h out) :
    sinkCalls h = if env.sink.isSome then [event] else [] := by
  cases hgiven with
  | nobody hnone =>
    rw [hnone]
    rfl
  | @sunk sink hsink =>
    rw [hsink, ← List.singleton_append, sinkCalls_append, (idle_receive sink event).sinkCalls]
    rfl

theorem Given.queuedEvents (hgiven : Given env event h out) : queuedEvents h = [] := by
  cases hgiven with
  | nobody => rfl
  | @sunk sink _ =>
    rw [← List.singleton_append, queuedEvents_append, (idle_receive sink event).queuedEvents]
    rfl

end Given
end History

/-- The events that wait on frames. -/
def held (fs : List Frame) : List Object := fs.flatMap (·.pending)

section Held
variable {fs : List Frame} {event : Object}

theorem held_joinTop {events : List Object} (hevent : event ∈ held (joinTop events fs)) :
    event ∈ held fs ∨ event ∈ events := by
  rcases fs.eq_nil_or_concat with rfl | ⟨lower, top, rfl⟩
  · cases hevent
  · rw [List.concat_eq_append] at hevent ⊢
    rw [joinTop_concat, held, List.flatMap_append, List.flatMap_singleton, List.mem_append,
      List.mem_append] at hevent
    rw [held, List.flatMap_append, List.flatMap_singleton, List.mem_append]
    exact or_assoc.mpr hevent

theorem held_take {depth : Nat} (hevent : event ∈ held (fs.take depth)) : event ∈ held fs := by
  obtain ⟨f, hf, hpending⟩ := List.mem_flatMap.mp hevent
  exact List.mem_flatMap.mpr ⟨f, List.mem_of_mem_take hf, hpending⟩

theorem held_concat {command : Object} : held (fs ++ [⟨command, []⟩]) = held fs := by
  rw [held, List.flatMap_append, List.flatMap_singleton, List.append_nil, held]

theorem held_at {depth : Nat} (hevent : event ∈ (fs[depth]?.map (·.pending)).getD []) :
    event ∈ held fs := by
  cases hf : fs[depth]? with
  | none =>
    rw [hf] at hevent
    cases hevent
  | some f =>
    rw [hf] at hevent
    exact List.mem_flatMap.mpr ⟨f, List.mem_of_getElem? hf, hevent⟩

theorem held_rootEvents (hevent : event ∈ rootEvents fs) : event ∈ held fs := by
  cases fs with
  | nil => cases hevent
  | cons f fs => exact List.mem_flatMap.mpr ⟨f, List.mem_cons_self, hevent⟩

theorem held_emptyRoot (hevent : event ∈ held (emptyRoot fs)) : event ∈ held fs := by
  cases fs with
  | nil => exact hevent
  | cons f fs => exact List.mem_append_right _ hevent

end Held

/-! ## The forest of emissions -/

/-- The emission of an immediate event: the emissions that were made during its dispatch, and
whether the dispatch returned.  Without handlers there is nothing to wait for. -/
inductive Emission where
  | of (event : Object) (during : List Emission) (returned : Bool)

namespace Emission

mutual

/-- The events of an emission in the order in which their dispatches ended, and whether they
returned. -/
def ends : Emission → List (Object × Bool)
  | of event during returned => endsAll during ++ [(event, returned)]

/-- The events of emissions that were made one after the other. -/
def endsAll : List Emission → List (Object × Bool)
  | [] => []
  | emission :: rest => emission.ends ++ endsAll rest

end

theorem endsAll_append {es₁ es₂ : List Emission} :
    endsAll (es₁ ++ es₂) = endsAll es₁ ++ endsAll es₂ := by
  induction es₁ with
  | nil => rfl
  | cons emission rest ih => rw [List.cons_append, endsAll, ih, endsAll, List.append_assoc]

theorem endsAll_singleton {event : Object} {during : List Emission} {returned : Bool} :
    endsAll [of event during returned] = endsAll during ++ [(event, returned)] := by
  rw [endsAll, endsAll, List.append_nil, ends]

/-- The events whose dispatches returned, in the order in which they did. -/
def delivered (es : List Emission) : List Object :=
  (endsAll es).filterMap fun ⟨event, returned⟩ => if returned then some event else none

theorem delivered_append {es₁ es₂ : List Emission} :
    delivered (es₁ ++ es₂) = delivered es₁ ++ delivered es₂ := by
  rw [delivered, endsAll_append, List.filterMap_append, delivered, delivered]

/-- What was emitted during a dispatch gets to the sink before the event that was dispatched. -/
theorem delivered_returned {event : Object} {during : List Emission} :
    delivered [of event during true] = delivered during ++ [event] := by
  rw [delivered, endsAll_singleton, List.filterMap_append, delivered]
  rfl

theorem delivered_stopped {event : Object} {during : List Emission} :
    delivered [of event during false] = delivered during := by
  rw [delivered, endsAll_singleton, List.filterMap_append, delivered]
  exact List.append_nil _

end Emission

/-! ## Reading the forest off a run -/

/-- The emissions of a computation that is begun on given frames, in the order in which they
begin. -/
abbrev Emissions := List Frame → List Emission

namespace Emissions

/-- There are none. -/
def nothing : Emissions := fun _ => []

/-- The emissions of a computation, and then those of what goes on with its value. -/
def andThen {α : Type} (x : OnStack α) (first : Emissions) (next : α → Emissions) : Emissions :=
  fun fs => first fs ++ match (x.run fs).run.value with
    | some (a, mid) => next a mid
    | none => []

/-- Nothing goes on if something is raised. -/
def andOk {α : Type} (x : Chain α) (first : Emissions) (next : α → Emissions) : Emissions :=
  andThen x.run first fun
    | .ok a => next a
    | .error _ => nothing

/-- A computation that is begun on given frames returns. -/
def returns {α : Type} (x : Chain α) (fs : List Frame) : Bool :=
  match (x.run.run fs).run.value with
  | some (.ok _, _) => true
  | _ => false

variable {D : Type} (env : Environment D) (answer : (q : ContextRequest) → OnStack q.Reply)
  (emits : ContextRequest → Emissions)

/-- A program emits what the answers to its requests do. -/
def ofProgram {α : Type} : ChainProgram α → Emissions
  | .done _ => nothing
  | .ask q next => andThen (answer q) (emits q) fun reply => ofProgram (next reply)

/-- A service is obtained, and then its program runs. -/
def ofService {T α : Type} (slot : Slot D T) (program : T → ChainProgram α)
    (next : α → Emissions) : Emissions :=
  match (slot.resolve env.services).outcome with
  | .ok service =>
    andOk (runProgram answer (program service)) (ofProgram answer emits (program service)) next
  | .error _ => nothing

def ofEventHandlers (event : Object) : List (Slot D (EventHandler D) × Nat) → Emissions
  | [] => nothing
  | (slot, _) :: rest =>
    ofService env answer emits slot (fun handler => handler env.services event) fun _ =>
      ofEventHandlers event rest

def ofPostHandlers (command : Object) (result : CommandResult) :
    List (Slot D (PostHandler D) × Nat) → Emissions
  | [] => nothing
  | (slot, _) :: rest =>
    ofService env answer emits slot (fun post => post env.services command result) fun _ =>
      ofPostHandlers command result rest

def ofDispatch (event : Object) : Emissions :=
  match env.registry.descriptorOf? event with
  | some d =>
    if d.kind.isEvent then ofEventHandlers env answer emits event d.eventHandlers.zipIdx
    else nothing
  | none => nothing

/-- An immediate event is itself emitted; if it has handlers, its dispatch comes first. -/
def ofEmit (event : Object) : Emissions := fun fs =>
  match fs.getLast? with
  | none => []
  | some top =>
    let event := event.stamp top.command env.party
    match env.registry.descriptorOf? event with
    | none => []
    | some d =>
      match d.kind, d.isHandled with
      | .routedImmediateEvent, true =>
        [.of event (ofDispatch env answer emits event fs) (returns (dispatch env answer event) fs)]
      | .routedImmediateEvent, false | .callerOnlyImmediateEvent, _ => [.of event [] true]
      | _, _ => []

/-- A command that is admitted is handled, by its handler and then by its post-handlers. -/
def ofExecution (command : Object) (validated : Bool) : Emissions :=
  match env.registry.descriptorOf? command with
  | some d =>
    if d.kind.isCommand then
      match d.handler with
      | some (_, slot) =>
        andOk (unless validated do validate env command d.type.name) nothing fun _ =>
          ofService env answer emits slot (fun handler => handler env.services command)
            fun result => ofPostHandlers env answer emits command result d.postHandlers.zipIdx
      | none => nothing
    else nothing
  | none => nothing

/-- A nested command has a frame of its own. -/
def ofNested (command : Object) : Emissions := fun fs =>
  if fs.isEmpty then [] else ofExecution env answer emits command false (fs ++ [⟨command, []⟩])

def ofFinalDispatch : (limit : Nat) → List Object → Emissions
  | _, [] => nothing
  | 0, _ :: _ => nothing
  | limit + 1, event :: rest =>
    if isRoutedAndHandled env event then
      andOk (dispatch env answer event) (ofDispatch env answer emits event) fun _ mid =>
        ofFinalDispatch limit (rest ++ rootEvents mid) (emptyRoot mid)
    else ofFinalDispatch limit rest

/-- A root command, and then the dispatches of its final events. -/
def ofRoot (limit : Nat) (command : Object) (validated : Bool) : Emissions := fun fs =>
  if fs.isEmpty then
    andOk (rawExecute env answer command validated) (ofExecution env answer emits command validated)
      (fun _ mid => ofFinalDispatch env answer emits limit (rootEvents mid) (emptyRoot mid))
      [⟨command, []⟩]
  else []

def ofRequest (limit : Nat) : ContextRequest → Emissions
  | .execute command => ofNested env answer emits command
  | .executeWithEvents command _ => ofNested env answer emits command
  | .executeRoot command => ofRoot env answer emits limit command false
  | .emit event => ofEmit env answer emits event
  | .dispatch event => ofDispatch env answer emits event
  | .dispatchSafe event => ofDispatch env answer emits event
  | .view => nothing
  | .sign _ => nothing

end Emissions

/-- The emissions of a request whose programs are nested at most `n` deep. -/
def emissions {D : Type} (env : Environment D) : (n : Nat) → ContextRequest → Emissions
  | 0, _ => .nothing
  | n + 1, q => .ofRequest env (perform env n) (emissions env n) n q

end Chain
end CommandEngine
