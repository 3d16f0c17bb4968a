import CommandEngine.Proofs.Token.Validation

/-!
# Chains with two tokens

A chain passes its token to handling validations, to records and to the views of its programs.  No
operation looks at it, so two chains in environments that differ in the token only are run in
step: they have the same frames at every moment, make the same calls, and raise failures that are
alike. For the programs this rests on their being blind, and for the replies to their requests on
the operations that answer them, whose programs are nested less deep; so the induction is on the
depth of nesting (`parallel_perform`), and within it over the program (`twin_runProgram`).
-/
namespace CommandEngine

/-- Sinks that do the same with every event, but for the token. -/
def Sink.Alike (t t' : Token) (sink sink' : Sink) : Prop :=
  ∀ event, Account.Matches t t' (OutcomeAlike t t' Eq) (sink.receive event) (sink'.receive event)

/-- Environments with the one token and the other, and with sinks that are alike. -/
inductive Environment.Alike {D : Type} (t t' : Token) : Environment D → Environment D → Prop
  | mk {registry : Registry D} {services : D} {party : String} {sink sink' : Option Sink}
      (hsink : Option.Rel (Sink.Alike t t') sink sink') :
      Environment.Alike t t' ⟨registry, services, t, party, sink⟩
        ⟨registry, services, t', party, sink'⟩

namespace Chain

open Run

/-! ## Steps -/

section Steps
variable (t t' : Token) {α β : Type}

/-- Begun on the same frames, the computations match and leave the same frames. -/
def Twin (x y : Chain α) : Prop := Parallel t t' Eq (OutcomeAlike t t' Eq) x.run y.run

variable {t t'}

theorem twin_pure (a : α) : Twin t t' (pure a) (pure a) := parallel_pure_run rfl

theorem twin_throw {e e' : Raise} (he : e.Alike t t' e') :
    Twin t t' (throw e : Chain α) (throw e') := parallel_throw_run he

theorem twin_outcome {o o' : Outcome α} (ho : OutcomeAlike t t' Eq o o') :
    Twin t t' (ofOutcome o) (ofOutcome o') := parallel_outcome_run ho

theorem Twin.bind {x y : Chain α} {f g : α → Chain β} (hxy : Twin t t' x y)
    (hfg : ∀ a, Twin t t' (f a) (g a)) : Twin t t' (x >>= f) (y >>= g) :=
  parallel_bind_run hxy fun a _ ha => ha ▸ hfg a

theorem Twin.map {x y : Chain α} (hxy : Twin t t' x y) (f : α → β) :
    Twin t t' (f <$> x) (f <$> y) := by
  rw [← bind_pure_comp, ← bind_pure_comp]
  exact hxy.bind fun a => twin_pure _

/-- What cannot fail, among the computations that may. -/
theorem twin_lift {x y : OnStack α} (hxy : Parallel t t' Eq Eq x y) :
    Twin t t' (liftM x) (liftM y) := parallel_state_run hxy

theorem twin_own {x y : Account α} (hxy : Account.Matches t t' Eq x y) :
    Twin t t' (liftM x) (liftM y) := parallel_lift_run hxy

theorem twin_mark {m : Mark} (hm : m.hook? = none) :
    Twin t t' (liftM (Account.mark m)) (liftM (Account.mark m)) :=
  twin_own (Account.matches_mark (.own hm))

theorem parallel_frames (step : List Frame → α × List Frame) :
    Parallel t t' Eq Eq (modifyGet step : OnStack α) (modifyGet step) := by
  rintro s _ rfl
  exact matches_pure ⟨rfl, rfl⟩

theorem twin_get : Twin t t' (get : Chain (List Frame)) get := twin_lift parallel_get

theorem twin_modify (f : List Frame → List Frame) :
    Twin t t' (modify f : Chain Unit) (modify f) :=
  twin_lift (parallel_modify fun _ _ hs => congrArg f hs)

/-- An operation that is watched by its caller. -/
theorem Twin.attempt_bind {x y : Chain α} {f g : Outcome α → Chain β} (hxy : Twin t t' x y)
    (hfg : ∀ o o', OutcomeAlike t t' Eq o o' → Twin t t' (f o) (g o')) :
    Twin t t' (attempt x >>= f) (attempt y >>= g) :=
  parallel_bind_run (parallel_state_run hxy) hfg

/-- A service that is obtained is one that its slot gives. -/
theorem twin_resolve {D T : Type} {slot : Slot D T} {services : D} {Q : T → Prop}
    {f g : T → Chain α} (hslot : slot.All services Q)
    (hfg : ∀ service, Q service → Twin t t' (f service) (g service)) :
    Twin t t' (act (slot.resolve services) >>= f) (act (slot.resolve services) >>= g) := by
  have hact (f : T → Chain α) : act (slot.resolve services) >>= f =
      liftM (Account.act (slot.resolve services)) >>= fun outcome => ofOutcome outcome >>= f :=
    bind_assoc _ _ _
  rw [hact, hact]
  refine parallel_lift_bind_run (Account.matches_act _) ?_
  cases hresolved : (Account.act (slot.resolve services)).value with
  | error e => exact twin_throw (Raise.alike_refl e)
  | ok service => exact hfg service (hslot service hresolved)

/-- A check that throws when it fails. -/
theorem twin_check {c : Prop} [Decidable c] {e : Raise} {x y : Unit → Chain α}
    (hxy : Twin t t' (x ()) (y ())) :
    Twin t t' (if c then x () else throw e >>= x) (if c then y () else throw e >>= y) :=
  related_ite hxy ((twin_throw (Raise.alike_refl e)).bind fun _ => hxy)

/-- A check that throws. -/
theorem twin_refuse {c : Prop} [Decidable c] {e : Raise} {x y : Unit → Chain α}
    (hxy : Twin t t' (x ()) (y ())) :
    Twin t t' (if c then throw e >>= x else x ()) (if c then throw e >>= y else y ()) :=
  related_ite ((twin_throw (Raise.alike_refl e)).bind fun _ => hxy) hxy

theorem parallel_openFrame (command : Object) :
    Parallel t t' Eq Eq (openFrame command) (openFrame command) :=
  (parallel_modify fun _ _ hs => congrArg _ hs).bind fun _ _ _ =>
    parallel_lift (Account.matches_mark (.own rfl))

theorem parallel_takeRootEvents : Parallel t t' Eq Eq takeRootEvents takeRootEvents :=
  parallel_frames fun fs => (rootEvents fs, emptyRoot fs)

end Steps

/-! ## Operations without requests -/

variable {D : Type} {t t' : Token} {env env' : Environment D} (henv : env.Alike t t' env')

section Alone
include henv

theorem twin_require_bind {α : Type} {o : Object} {f g : Descriptor D → Chain α}
    (hfg : ∀ d ∈ env.registry.descriptors, Twin t t' (f d) (g d)) :
    Twin t t' (require env o >>= f) (require env' o >>= g) := by
  obtain ⟨-⟩ := henv
  unfold require
  cases hfound : Registry.require _ o with
  | error e => exact twin_throw (Raise.alike_refl _)
  | ok d => exact hfg d (Validation.mem_of_require hfound)

theorem twin_notify (event : Object) : Twin t t' (notify env event) (notify env' event) := by
  obtain ⟨hsink⟩ := henv
  cases hsink with
  | none => exact twin_pure ()
  | some hreceive =>
    refine (twin_mark rfl).bind fun _ => ?_
    exact parallel_bind_run (parallel_lift_run (hreceive event)) fun _ _ ho => twin_outcome ho

theorem twin_validate (hblind : env.registry.Blind t t' env.services) (command : Object)
    (typeName : String) :
    Twin t t' (validate env command typeName) (validate env' command typeName) := by
  obtain ⟨-⟩ := henv
  refine parallel_bind_run (parallel_lift_run (Validation.matches_handling hblind command)) ?_
  intro o o' ho
  refine parallel_bind_run (parallel_outcome_run ho) fun r r' hr => ?_
  rw [hr.success]
  by_cases hsuccess : r.success = true
  · rw [if_pos hsuccess, if_pos hsuccess]
    exact twin_pure ()
  · rw [if_neg hsuccess, if_neg hsuccess]
    exact twin_throw (.failure (.rejected _ _ hr))

end Alone

/-! ## Operations -/

section Operations
variable {answer answer' : (q : ContextRequest) → OnStack q.Reply}
  (hanswer : ∀ q, Parallel t t' Eq (ContextRequest.Alike t t' q) (answer q) (answer' q))

include hanswer in
/-- Programs that agree do the same. -/
theorem twin_runProgram {α : Type} {p p' : ChainProgram α}
    (hp : Program.Agrees t t' (ContextRequest.Alike t t') p p') :
    Twin t t' (runProgram answer p) (runProgram answer' p') := by
  induction hp with
  | done houtcome => exact twin_outcome houtcome
  | @ask q next next' _ ih => exact (hanswer q).bind ih

include henv hanswer

theorem twin_callEventHandlers {event : Object} {slots : List (Slot D (EventHandler D) × Nat)}
    (hslots : ∀ slot ∈ slots, slot.1.All env.services fun handler =>
      ∀ event, ChainProgram.Blind t t' (handler env.services event)) :
    Twin t t' (callEventHandlers env answer event slots)
      (callEventHandlers env' answer' event slots) := by
  obtain ⟨-⟩ := henv
  induction slots with
  | nil => exact twin_pure ()
  | cons slot rest ih =>
    rw [List.forall_mem_cons] at hslots
    refine twin_resolve hslots.1 fun handler hhandler => ?_
    refine (twin_mark rfl).bind fun _ => ?_
    exact (twin_runProgram hanswer (hhandler event)).bind fun _ => ih hslots.2

theorem twin_callPostHandlers {command : Object} {result : CommandResult}
    {slots : List (Slot D (PostHandler D) × Nat)}
    (hslots : ∀ slot ∈ slots, slot.1.All env.services fun post =>
      ∀ command result, ChainProgram.Blind t t' (post env.services command result)) :
    Twin t t' (callPostHandlers env answer command result slots)
      (callPostHandlers env' answer' command result slots) := by
  obtain ⟨-⟩ := henv
  induction slots with
  | nil => exact twin_pure ()
  | cons slot rest ih =>
    rw [List.forall_mem_cons] at hslots
    refine twin_resolve hslots.1 fun post hpost => ?_
    refine (twin_mark rfl).bind fun _ => ?_
    exact (twin_runProgram hanswer (hpost command result)).bind fun _ => ih hslots.2

variable (hblind : env.registry.Blind t t' env.services)
include hblind

theorem twin_dispatch (event : Object) :
    Twin t t' (dispatch env answer event) (dispatch env' answer' event) := by
  refine twin_require_bind henv fun d hd => twin_check ?_
  refine (twin_mark rfl).bind fun _ => ?_
  refine twin_callEventHandlers henv hanswer fun slot hslot => ?_
  exact hblind.gives.eventHandlers d hd _ (List.fst_mem_of_mem_zipIdx hslot)

theorem parallel_dispatchSafe (event : Object) :
    Parallel t t' Eq Eq (dispatchSafe env answer event) (dispatchSafe env' answer' event) := by
  have hdispatch := twin_dispatch henv hanswer hblind event
  obtain ⟨-⟩ := henv
  refine parallel_get.bind ?_
  rintro frames _ rfl
  refine Parallel.bind hdispatch fun o o' ho => ?_
  cases ho with
  | ok _ => exact parallel_pure rfl
  | error he =>
    cases he with
    | failure hf =>
      refine (parallel_lift (Account.matches_log ?_)).bind fun _ _ _ => parallel_pure rfl
      refine ⟨rfl, rfl, ?_, .inr ⟨rfl, rfl⟩⟩
      simp only [LogEvent.fields, hf.report]
    | panic p =>
      refine (parallel_modify fun _ _ hs => congrArg _ hs).bind fun _ _ _ => ?_
      refine (parallel_lift (Account.matches_mark (.own rfl))).bind fun _ _ _ => ?_
      refine (parallel_lift (Account.matches_log ?_)).bind fun _ _ _ => parallel_pure rfl
      exact ⟨rfl, rfl, rfl, .inr ⟨rfl, rfl⟩⟩

theorem twin_emit (event : Object) :
    Twin t t' (emit env answer event) (emit env' answer' event) := by
  refine twin_get.bind fun frames => ?_
  cases frames.getLast? with
  | none => exact twin_throw (Raise.alike_refl _)
  | some top =>
    have hqueue (event : Object) : Twin t t' (do
        modify (joinTop [event])
        Account.mark (.queued event) : Chain Unit) (do
        modify (joinTop [event])
        Account.mark (.queued event) : Chain Unit) :=
      (twin_modify _).bind fun _ => twin_mark rfl
    have hparty : env'.party = env.party := by
      obtain ⟨-⟩ := henv
      rfl
    dsimp only
    rw [hparty]
    refine twin_require_bind henv fun d _ => ?_
    cases d.kind with
    | command => exact twin_throw (Raise.alike_refl _)
    | commandWithResult => exact twin_throw (Raise.alike_refl _)
    | routedEvent => exact hqueue _
    | callerOnlyEvent => exact hqueue _
    | callerOnlyImmediateEvent => exact twin_notify henv _
    | routedImmediateEvent =>
      refine related_ite ?_ (twin_notify henv _)
      exact (twin_dispatch henv hanswer hblind _).bind fun _ => twin_notify henv _

theorem twin_rawExecute (command : Object) (validated : Bool) :
    Twin t t' (rawExecute env answer command validated)
      (rawExecute env' answer' command validated) := by
  refine twin_require_bind henv fun d hd => twin_check ?_
  cases hhandler : d.handler with
  | none => exact twin_throw (Raise.alike_refl _)
  | some elected =>
    have hhandle : Twin t t' (do
        let handler ← act (elected.2.resolve env.services)
        Account.mark (.handler command)
        let result ← runProgram answer (handler env.services command)
        callPostHandlers env answer command result d.postHandlers.zipIdx
        return result) (do
        let handler ← act (elected.2.resolve env'.services)
        Account.mark (.handler command)
        let result ← runProgram answer' (handler env'.services command)
        callPostHandlers env' answer' command result d.postHandlers.zipIdx
        return result) := by
      have hposts (result : CommandResult) := @twin_callPostHandlers D t t' env env' henv answer
        answer' hanswer command result d.postHandlers.zipIdx fun slot hslot =>
          hblind.gives.postHandlers d hd _ (List.fst_mem_of_mem_zipIdx hslot)
      obtain ⟨-⟩ := henv
      refine twin_resolve (hblind.gives.handlers d hd elected.1 _ hhandler) fun handler hgood => ?_
      refine (twin_mark rfl).bind fun _ => ?_
      refine (twin_runProgram hanswer (hgood command)).bind fun result => ?_
      exact (hposts result).bind fun _ => twin_pure result
    cases validated with
    | true => exact hhandle
    | false => exact (twin_validate henv hblind command _).bind fun _ => hhandle

theorem twin_executeNested (command : Object) (stop giveEvents : Bool) :
    Twin t t' (executeNested env answer command stop giveEvents)
      (executeNested env' answer' command stop giveEvents) := by
  refine twin_get.bind fun frames => twin_refuse ?_
  refine Twin.bind (twin_lift (parallel_openFrame command)) fun _ => ?_
  have hraw := twin_rawExecute henv hanswer hblind command false
  refine hraw.attempt_bind fun outcome outcome' houtcome => ?_
  have htake := @twin_modify t t' (·.take frames.length)
  -- the three ways to go on: the frame is closed without its events, left behind, or read out
  cases houtcome with
  | error he =>
    cases he with
    | failure hf =>
      exact htake.bind fun _ => Twin.bind (twin_mark rfl) fun _ => twin_throw (.failure hf)
    | panic p => exact twin_throw (.panic p)
  | ok hresult =>
    subst hresult
    refine twin_get.bind fun opened => htake.bind fun _ => related_ite ?_ ?_
    · exact Twin.bind (twin_mark rfl) fun _ => twin_pure _
    · refine twin_get.bind fun left => related_ite (twin_throw (Raise.alike_refl _)) ?_
      refine (twin_modify _).bind fun _ => ?_
      exact Twin.bind (twin_mark rfl) fun _ => twin_pure _

theorem twin_finalDispatch (limit : Nat) (events : List Object) :
    Twin t t' (finalDispatch env answer limit events)
      (finalDispatch env' answer' limit events) := by
  induction limit generalizing events with
  | zero =>
    cases events with
    | nil => exact twin_pure []
    | cons event rest => exact parallel_state_run (parallel_liftRun matches_failure)
  | succ limit ih =>
    cases events with
    | nil => exact twin_pure []
    | cons event rest =>
      have hsame : isRoutedAndHandled env' event = isRoutedAndHandled env event := by
        obtain ⟨-⟩ := henv
        rfl
      unfold finalDispatch
      rw [hsame]
      refine related_ite ?_ ?_
      · refine (twin_dispatch henv hanswer hblind event).bind fun _ => ?_
        refine (twin_lift parallel_takeRootEvents).bind fun more => ?_
        exact (ih _).bind fun _ => twin_pure _
      · exact (ih _).bind fun _ => twin_pure _

theorem twin_runRoot (limit : Nat) (command : Object) (validated : Bool) :
    Twin t t' (runRoot env answer limit command validated)
      (runRoot env' answer' limit command validated) := by
  refine Twin.bind (twin_lift (parallel_openFrame command)) fun _ => ?_
  refine (twin_rawExecute henv hanswer hblind command validated).bind fun result => ?_
  refine (twin_lift parallel_takeRootEvents).bind fun events => ?_
  exact (twin_finalDispatch henv hanswer hblind limit events).bind fun _ => twin_pure _

theorem twin_executeRoot (limit : Nat) (command : Object) (validated : Bool) :
    Twin t t' (executeRoot env answer limit command validated)
      (executeRoot env' answer' limit command validated) := by
  refine twin_get.bind fun frames => twin_refuse ?_
  have hroot := twin_runRoot henv hanswer hblind limit command validated
  refine hroot.attempt_bind fun outcome outcome' houtcome => ?_
  refine Twin.bind (twin_lift (parallel_frames fun _ => ((), []))) fun _ => ?_
  exact Twin.bind (twin_mark rfl) fun _ => twin_outcome houtcome

/-- What answers requests in the one environment and in the other gives replies that are alike, if
what answers the requests nested in these does. -/
theorem parallel_serve (limit : Nat) (q : ContextRequest) :
    Parallel t t' Eq (ContextRequest.Alike t t' q) (serve env answer limit q)
      (serve env' answer' limit q) := by
  cases q with
  | execute command => exact (twin_executeNested henv hanswer hblind command false false).map _
  | executeWithEvents command stop => exact twin_executeNested henv hanswer hblind command stop true
  | executeRoot command => exact twin_executeRoot henv hanswer hblind limit command false
  | emit event => exact twin_emit henv hanswer hblind event
  | dispatch event => exact twin_dispatch henv hanswer hblind event
  | dispatchSafe event => exact parallel_dispatchSafe henv hanswer hblind event
  | view =>
    obtain ⟨-⟩ := henv
    refine parallel_get.bind ?_
    rintro frames _ rfl
    exact parallel_pure ⟨rfl, rfl⟩
  | sign s => exact parallel_lift (Account.matches_sign s)

omit hanswer in
/-- **Whatever is requested** is answered alike, however deep it is nested. -/
theorem parallel_perform (n : Nat) (q : ContextRequest) :
    Parallel t t' Eq (ContextRequest.Alike t t' q) (perform env n q) (perform env' n q) := by
  induction n generalizing q with
  | zero => exact parallel_liftRun matches_failure
  | succ n ih => exact parallel_serve henv ih hblind n q

end Operations
end Chain
end CommandEngine
