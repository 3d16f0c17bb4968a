import CommandEngine.Job
import CommandEngine.Proofs.Chain.Operations

/-!
# What a chain reads of its registry

A chain looks the descriptor of an object up, and of a service that it finds there it runs only what
the service does for this very object.  Two registries that serve every object alike may therefore
be exchanged for each other: the same things happen, in chains (`perform_exchange`) and in jobs
(`process_exchange`).  What their services would do for an object they are never called for is of no
account.

Each operation is the same once the operations it is made of are.  Events are walked over by the
limit of the final dispatch, and requests are answered by programs that are nested less deep.
-/
namespace CommandEngine

/-! ## Serving alike -/

/-- What a service does for an object, once it is obtained for a call. -/
def Slot.at {D β : Type} (slot : Slot D (D → Object → β)) (o : Object) (services : D) : Act β :=
  (fun service => service services o) <$> slot.resolve services

/-- Descriptors that serve an object alike: their services, obtained and called for it, do the same.
-/
structure Descriptor.ServesLike {D : Type} (o : Object) (d d' : Descriptor D) : Prop where
  type : d'.type = d.type
  kind : d'.kind = d.kind
  handler : d'.handler.map (·.2.at o) = d.handler.map (·.2.at o)
  handling : d'.handlingValidators = d.handlingValidators
  post : d'.postHandlers.map (·.at o) = d.postHandlers.map (·.at o)
  event : d'.eventHandlers.map (·.at o) = d.eventHandlers.map (·.at o)
  isHandled : d'.isHandled = d.isHandled

/-- Registries that serve every object alike. -/
structure Registry.ServesLike {D : Type} (r r' : Registry D) : Prop where
  found : ∀ o, Option.Rel (Descriptor.ServesLike o) (r.descriptorOf? o) (r'.descriptorOf? o)
  provider : r'.provider = r.provider

/-- The environment with another registry. -/
def Environment.withRegistry {D : Type} (env : Environment D) (r : Registry D) : Environment D :=
  { env with registry := r }

theorem Environment.registry_withRegistry {D : Type} (env : Environment D) (r : Registry D) :
    (env.withRegistry r).registry = r := rfl

theorem Registry.ServesLike.lookup {D : Type} {r r' : Registry D} (hr : r.ServesLike r')
    (o : Object) : (r.descriptorOf? o = none ∧ r'.descriptorOf? o = none) ∨ ∃ d d',
      r.descriptorOf? o = some d ∧ r'.descriptorOf? o = some d' ∧ d.ServesLike o d' := by
  have hfound := hr.found o
  generalize r.descriptorOf? o = found, r'.descriptorOf? o = found' at hfound
  cases hfound with
  | none => exact .inl ⟨rfl, rfl⟩
  | some hlike => exact .inr ⟨_, _, rfl, rfl, hlike⟩

/-! ## Validation -/

namespace Validation
variable {D : Type} {r r' : Registry D} {services : D} {token : Token}

theorem answer_exchange (hprovider : r'.provider = r.provider) (stage : ValidationStage) :
    answer r' services stage token = answer r services stage token := by
  funext q
  cases q with
  | ambientValues =>
    show ambientValues r' services = ambientValues r services
    unfold ambientValues
    rw [hprovider]
  | record | view | sign => rfl

theorem callAll_exchange (hprovider : r'.provider = r.provider) (stage : ValidationStage)
    (o : Object) (slots : List (Slot D (Validator D) × Nat)) :
    callAll r' services stage token o slots = callAll r services stage token o slots := by
  induction slots with
  | nil => rfl
  | cons slot rest ih =>
    unfold callAll
    rw [ih]
    unfold call
    rw [answer_exchange hprovider]

theorem handling_exchange (hr : r.ServesLike r') (o : Object) :
    handling r' services token o = handling r services token o := by
  unfold handling Registry.require
  rcases hr.lookup o with ⟨hnone, hnone'⟩ | ⟨d, d', hd, hd', hlike⟩
  · rw [hnone, hnone']
  · rw [hd, hd']
    dsimp only
    rw [hlike.handling, callAll_exchange hr.provider]
end Validation

/-! ## Chains -/

theorem Account.act_map {α β : Type} (f : α → β) (a : Act α) :
    Account.act (f <$> a) = Except.map f <$> Account.act a := by
  apply Traced.ext
  · rw [Traced.history_map]
    show ((f <$> a).run.history).map _ = (a.run.history).map _
    rw [ExceptT.run_map, Traced.history_map]
  · show ((f <$> a).run).value = _
    rw [ExceptT.run_map]
    rfl

namespace Chain

theorem act_map {α β : Type} (f : α → β) (a : Act α) : act (f <$> a) = f <$> act a := by
  have hlift : (liftM (Except.map f <$> Account.act a : Account (Outcome β)) : Chain (Outcome β)) =
      Except.map f <$> liftM (Account.act a) := liftM_map _ _
  unfold act
  rw [Account.act_map, map_bind, hlift, bind_map_left]
  congr 1
  funext outcome
  cases outcome with
  | ok a => rfl
  | error e => rfl

section Exchange
variable {D : Type} {env : Environment D} {r : Registry D}
  {answer : (q : ContextRequest) → OnStack q.Reply}

/-- Of a service that is obtained for an object, all that counts is what it does for it. -/
theorem act_exchange {β α : Type} {slot slot' : Slot D (D → Object → β)} {o : Object} {services : D}
    (hslot : slot'.at o = slot.at o) (f : β → Chain α) :
    (act (slot'.resolve services) >>= fun service => f (service services o)) =
      act (slot.resolve services) >>= fun service => f (service services o) := by
  have hat (slot : Slot D (D → Object → β)) :
      (act (slot.resolve services) >>= fun service => f (service services o)) =
        act (slot.at o services) >>= f := by rw [Slot.at, act_map, bind_map_left]
  rw [hat, hat, hslot]

theorem callEventHandlers_exchange {event : Object}
    {slots slots' : List (Slot D (EventHandler D) × Nat)}
    (hslots : slots'.map (Prod.map (·.at event) id) = slots.map (Prod.map (·.at event) id)) :
    callEventHandlers (env.withRegistry r) answer event slots' =
      callEventHandlers env answer event slots := by
  induction slots generalizing slots' with
  | nil =>
    rw [List.map_eq_nil_iff.mp hslots]
    rfl
  | cons slot rest ih =>
    obtain ⟨⟨slot', index⟩, rest', rfl, hslot, hrest⟩ := List.map_eq_cons_iff.mp hslots
    obtain ⟨hat, rfl⟩ := Prod.ext_iff.mp hslot
    unfold callEventHandlers
    rw [ih hrest]
    exact act_exchange hat fun program => do
      Account.mark (.eventHandler event slot.2)
      runProgram answer program
      callEventHandlers env answer event rest

theorem callPostHandlers_exchange {command : Object} {result : CommandResult}
    {slots slots' : List (Slot D (PostHandler D) × Nat)}
    (hslots : slots'.map (Prod.map (·.at command) id) = slots.map (Prod.map (·.at command) id)) :
    callPostHandlers (env.withRegistry r) answer command result slots' =
      callPostHandlers env answer command result slots := by
  induction slots generalizing slots' with
  | nil =>
    rw [List.map_eq_nil_iff.mp hslots]
    rfl
  | cons slot rest ih =>
    obtain ⟨⟨slot', index⟩, rest', rfl, hslot, hrest⟩ := List.map_eq_cons_iff.mp hslots
    obtain ⟨hat, rfl⟩ := Prod.ext_iff.mp hslot
    unfold callPostHandlers
    rw [ih hrest]
    exact act_exchange hat fun program => do
      Account.mark (.postHandler command slot.2 result)
      runProgram answer (program result)
      callPostHandlers env answer command result rest

/-- What is done with descriptors that serve the object alike. -/
theorem require_exchange {α : Type} (hr : env.registry.ServesLike r) {o : Object}
    {f g : Descriptor D → Chain α} (hfg : ∀ d d', d.ServesLike o d' → g d' = f d) :
    require (env.withRegistry r) o >>= g = require env o >>= f := by
  rcases hr.lookup o with ⟨hnone, hnone'⟩ | ⟨d, d', hd, hd', hlike⟩
  · have hunknown : require (env.withRegistry r) o = throw _ := require_of_unknown hnone'
    rw [require_of_unknown hnone, hunknown]
    rfl
  · have hfound : require (env.withRegistry r) o = pure d' := require_of_found hd'
    rw [require_of_found hd, hfound, pure_bind, pure_bind, hfg d d' hlike]

/-- Slots that serve the object alike still do so when they are numbered. -/
theorem map_zipIdx {T β : Type} {f : T → β} {xs ys : List T} (hxs : xs.map f = ys.map f) :
    xs.zipIdx.map (Prod.map f id) = ys.zipIdx.map (Prod.map f id) := by
  rw [← List.zipIdx_map, ← List.zipIdx_map, hxs]

variable (hr : env.registry.ServesLike r)
include hr

theorem dispatch_exchange (event : Object) :
    dispatch (env.withRegistry r) answer event = dispatch env answer event := by
  refine require_exchange hr fun d d' hlike => ?_
  rw [hlike.kind, hlike.type, callEventHandlers_exchange (map_zipIdx hlike.event)]

theorem dispatchSafe_exchange (event : Object) :
    dispatchSafe (env.withRegistry r) answer event = dispatchSafe env answer event := by
  unfold dispatchSafe
  rw [dispatch_exchange hr]
  rfl

theorem emit_exchange (event : Object) :
    emit (env.withRegistry r) answer event = emit env answer event := by
  unfold emit
  congr 1
  funext frames
  cases frames.getLast? with
  | none => rfl
  | some top =>
    refine require_exchange hr fun d d' hlike => ?_
    rw [hlike.kind, hlike.type, hlike.isHandled]
    cases d.kind with
    | routedImmediateEvent =>
      dsimp only
      rw [dispatch_exchange hr]
      rfl
    | callerOnlyImmediateEvent | routedEvent | callerOnlyEvent | command | commandWithResult => rfl

theorem rawExecute_exchange (command : Object) (validated : Bool) :
    rawExecute (env.withRegistry r) answer command validated =
      rawExecute env answer command validated := by
  have hvalidate (typeName : String) : validate (env.withRegistry r) command typeName =
      validate env command typeName := by
    unfold validate
    rw [Environment.registry_withRegistry, Validation.handling_exchange hr]
    rfl
  refine require_exchange hr fun d d' hlike => ?_
  rw [hlike.kind, hlike.type]
  have hhandler := hlike.handler
  cases hd : d.handler with
  | none =>
    rw [hd, Option.map_none, Option.map_eq_none_iff] at hhandler
    rw [hhandler]
  | some elected =>
    rw [hd, Option.map_some, Option.map_eq_some_iff] at hhandler
    obtain ⟨elected', hd', hat⟩ := hhandler
    rw [hd']
    dsimp only
    have hserve : (do
        let handler ← act (elected'.2.resolve (env.withRegistry r).services)
        Account.mark (.handler command)
        let result ← runProgram answer (handler (env.withRegistry r).services command)
        callPostHandlers (env.withRegistry r) answer command result d'.postHandlers.zipIdx
        return result : Chain CommandResult) = (do
        let handler ← act (elected.2.resolve env.services)
        Account.mark (.handler command)
        let result ← runProgram answer (handler env.services command)
        callPostHandlers env answer command result d.postHandlers.zipIdx
        return result) := by
      simp only [callPostHandlers_exchange (map_zipIdx hlike.post)]
      exact act_exchange hat fun program => do
        Account.mark (.handler command)
        let result ← runProgram answer program
        callPostHandlers env answer command result d.postHandlers.zipIdx
        return result
    rw [hserve, hvalidate]

theorem executeNested_exchange (command : Object) (stop giveEvents : Bool) :
    executeNested (env.withRegistry r) answer command stop giveEvents =
      executeNested env answer command stop giveEvents := by
  unfold executeNested
  rw [rawExecute_exchange hr]

theorem finalDispatch_exchange (limit : Nat) (events : List Object) :
    finalDispatch (env.withRegistry r) answer limit events =
      finalDispatch env answer limit events := by
  have hroute (event : Object) :
      isRoutedAndHandled (env.withRegistry r) event = isRoutedAndHandled env event := by
    unfold isRoutedAndHandled
    rw [Environment.registry_withRegistry]
    rcases hr.lookup event with ⟨hnone, hnone'⟩ | ⟨d, d', hd, hd', hlike⟩
    · rw [hnone, hnone']
    · rw [hd, hd']
      dsimp only
      rw [hlike.kind, hlike.isHandled]
  induction limit generalizing events with
  | zero =>
    cases events with
    | nil => rfl
    | cons event rest => rfl
  | succ limit ih =>
    cases events with
    | nil => rfl
    | cons event rest =>
      unfold finalDispatch
      rw [hroute, dispatch_exchange hr]
      simp only [ih]

theorem executeRoot_exchange (limit : Nat) (command : Object) (validated : Bool) :
    executeRoot (env.withRegistry r) answer limit command validated =
      executeRoot env answer limit command validated := by
  unfold executeRoot runRoot
  rw [rawExecute_exchange hr]
  simp only [finalDispatch_exchange hr]

theorem serve_exchange (limit : Nat) (q : ContextRequest) :
    serve (env.withRegistry r) answer limit q = serve env answer limit q := by
  cases q with
  | execute command =>
    exact congrArg
      (fun x : Chain (CommandResult × List Object) => (Prod.fst <$> x : Chain CommandResult).run)
      (executeNested_exchange hr command false false)
  | executeWithEvents command stop =>
    exact congrArg ExceptT.run (executeNested_exchange hr command stop true)
  | executeRoot command => exact congrArg ExceptT.run (executeRoot_exchange hr limit command false)
  | emit event => exact congrArg ExceptT.run (emit_exchange hr event)
  | dispatch event => exact congrArg ExceptT.run (dispatch_exchange hr event)
  | dispatchSafe event => exact dispatchSafe_exchange hr event
  | view | sign => rfl

/-- **Chains over registries that serve alike are the same**, at every depth of nesting. -/
theorem perform_exchange (n : Nat) : perform (env.withRegistry r) n = perform env n := by
  induction n with
  | zero => rfl
  | succ n ih =>
    funext q
    show serve _ (perform (env.withRegistry r) n) n q = serve env (perform env n) n q
    rw [ih]
    exact serve_exchange hr n q
end Exchange
end Chain

/-! ## Contexts and jobs -/

namespace Context
variable {D : Type} {c : Context D} {r : Registry D}

/-- The context over another registry. -/
def withRegistry (c : Context D) (r : Registry D) : Context D := ⟨c.env.withRegistry r, c.frames⟩

variable (hr : c.env.registry.ServesLike r)
include hr

theorem executeValidated_exchange (command : Object) :
    (c.withRegistry r).executeValidated command =
      (Prod.map id (·.withRegistry r)) <$> c.executeValidated command := by
  unfold executeValidated
  rw [map_bind]
  show (Chain.executeRoot (c.env.withRegistry r) (Chain.perform (c.env.withRegistry r) _) _ command
    true).run.run c.frames >>= _ = _
  rw [Chain.perform_exchange hr, Chain.executeRoot_exchange hr]
  rfl

end Context

namespace Job
variable {D : Type} {r r' : Registry D} (hr : r.ServesLike r') (party : String) (job : Job D)
include hr

theorem runInScope_exchange : runInScope r' party job = runInScope r party job := by
  have hvalidate : validate r' job = validate r job := by
    unfold validate
    simp only [Validation.handling_exchange hr]
  unfold runInScope
  rw [hvalidate]
  refine bind_congr fun _ => bind_congr fun result => ?_
  split
  · refine bind_congr fun s => ?_
    have hc : (⟨environment r' party job s.services, []⟩ : Context D) =
        Context.withRegistry ⟨environment r party job s.services, []⟩ r' := rfl
    dsimp only
    rw [hc, Context.executeValidated_exchange (c := ⟨environment r party job s.services, []⟩) hr,
      liftM_map, bind_map_left]
    rfl
  · rfl

theorem run_exchange : run r' party job = run r party job := by
  unfold run
  rw [runInScope_exchange hr]

/-- **Jobs over registries that serve alike are the same.** -/
theorem process_exchange : process r' party job = process r party job := by
  unfold process
  rw [run_exchange hr]

end Job
end CommandEngine
