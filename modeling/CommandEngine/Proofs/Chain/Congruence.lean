import CommandEngine.Proofs.Validation.Records

/-!
# What is true of the steps is true of the operations

The operations of a chain are put together from few steps: they look at the frames and change them,
leave marks and records, run code that stands outside the chain, give events to the sink, and answer
the requests of programs.  A *congruence* is a relation between computations that these steps
respect.  Every operation respects it then, whichever the application code is, as long as the
answers to its requests do; and these are operations whose programs are nested less deep, so the
induction is on the depth of nesting.

The two computations that are related are the same operation with different answering functions.  A
property of one computation is a congruence as well: one that does not look at the other side.

The record that a safe dispatch makes of what it contains stands apart from the other steps.  A
relation that need not respect it is `Stepwise`, and whatever is requested respects it if all safe
dispatches do.

The first congruence is the one that does away with the bound on the depth (`Below`): what ends
within some depth ends in the same way, with the same history and the same frames, within any
greater depth.
-/
namespace CommandEngine

/-- The hook call that a mark is. -/
def Mark.hook? : Mark → Option HookCall
  | hook call => some call
  | _ => none

theorem Mark.hook?_of_isValidating {m : Mark} (hm : m.isValidating) : m.hook? = none := by
  cases m with
  | hook => cases hm
  | _ => rfl

/-- A mark that the engine leaves without having to do with the sink or with a hook. -/
def Mark.isOwn : Mark → Bool
  | hook _ | sunk _ => false
  | _ => true

theorem Mark.hook?_of_isOwn {m : Mark} (hm : m.isOwn) : m.hook? = none := by
  cases m with
  | hook => cases hm
  | _ => rfl

theorem Mark.isOwn_of_isValidating {m : Mark} (hm : m.isValidating) : m.isOwn := by
  cases m with
  | hook | sunk => cases hm
  | _ => rfl

/-- An event is given to the sink, and there is a mark of it. -/
def Sink.give (sink : Sink) (event : Object) : Account (Outcome Unit) := do
  Account.mark (.sunk event)
  sink.receive event

namespace Chain

variable {D : Type} {env : Environment D} {R : ∀ {α : Type}, OnStack α → OnStack α → Prop}

/-- A relation between computations that the steps of operations respect, but for the records of
safe dispatches.  What the engine itself leaves in the history has nothing to do with the sink, which
is the only way to hooks and to the caller's stream, and is no record of an error. -/
structure Stepwise (env : Environment D) (R : ∀ {α : Type}, OnStack α → OnStack α → Prop) :
    Prop where
  bind : ∀ {α β : Type} {x y : OnStack α} {f g : α → OnStack β},
    R x y → (∀ a, R (f a) (g a)) → R (x >>= f) (y >>= g)
  frames : ∀ {α : Type} (step : List Frame → α × List Frame),
    R (modifyGet step : OnStack α) (modifyGet step)
  own : ∀ {α : Type} {a : Account α}, (a.Leaves fun m => m.isOwn) → a.Plain →
    R (liftM a : OnStack α) (liftM a)
  sink : ∀ {sink : Sink} (event : Object), env.sink = some sink →
    R (liftM (sink.give event) : OnStack (Outcome Unit)) (liftM (sink.give event))
  /-- A run without a result is related to every run. -/
  failure : ∀ {α : Type} (y : OnStack α), R (liftM (failure : Run α)) y

/-- A relation between computations that all steps of operations respect. -/
structure Congruence (env : Environment D) (R : ∀ {α : Type}, OnStack α → OnStack α → Prop) : Prop
    extends Stepwise env R where
  contained : ∀ {e : LogEvent}, e.isContained = true →
    R (liftM (Account.log e) : OnStack Unit) (liftM (Account.log e))

section Steps

variable (hR : Stepwise env R) {α β : Type}
include hR

theorem respects_pure (a : α) : R (pure a : OnStack α) (pure a) := hR.frames fun fs => (a, fs)

theorem respects_get : R (get : OnStack (List Frame)) get := hR.frames fun fs => (fs, fs)

theorem respects_outcome (outcome : Outcome α) :
    R (ofOutcome outcome).run (ofOutcome outcome).run :=
  respects_pure hR outcome

theorem respects_bind {x y : Chain α} {f g : α → Chain β} (hxy : R x.run y.run)
    (hfg : ∀ a, R (f a).run (g a).run) : R (x >>= f).run (y >>= g).run := by
  refine hR.bind hxy fun outcome => ?_
  cases outcome with
  | ok a => exact hfg a
  | error e => exact respects_pure hR _

/-- What cannot fail, among the computations that may. -/
theorem respects_lift {x y : OnStack α} (hxy : R x y) :
    R (liftM x : Chain α).run (liftM y : Chain α).run := by
  have hlift (x : OnStack α) : (liftM x : Chain α).run = x >>= fun a => pure (.ok a) := rfl
  rw [hlift, hlift]
  exact hR.bind hxy fun a => respects_pure hR _

theorem respects_attempt {x y : Chain α} (hxy : R x.run y.run) :
    R (attempt x).run (attempt y).run := respects_lift hR hxy

theorem respects_map {x y : Chain α} (hxy : R x.run y.run) (f : α → β) :
    R (f <$> x).run (f <$> y).run := by
  rw [← bind_pure_comp, ← bind_pure_comp]
  exact respects_bind hR hxy fun a => respects_pure hR _

theorem respects_own {a : Account α} (ha : a.Leaves fun m => m.isOwn) (hplain : a.Plain) :
    R (liftM a : Chain α).run (liftM a : Chain α).run := respects_lift hR (hR.own ha hplain)

theorem respects_mark {m : Mark} (hm : m.isOwn) :
    R (liftM (Account.mark m) : Chain Unit).run (liftM (Account.mark m) : Chain Unit).run :=
  respects_own hR (Account.leaves_mark hm) (Account.plain_mark m)

theorem respects_act (a : Act α) : R (act a).run (act a).run :=
  respects_bind hR (respects_own hR (Account.leaves_act a) (Account.plain_act a)) fun outcome =>
    respects_outcome hR outcome

theorem respects_throw (e : Raise) : R (throw e : Chain α).run (throw e : Chain α).run :=
  respects_pure hR _

omit hR in
theorem respects_ite {c : Prop} [Decidable c] {x x' y y' : Chain α} (hx : R x.run y.run)
    (hx' : R x'.run y'.run) : R (if c then x else x').run (if c then y else y').run := by
  split
  · exact hx
  · exact hx'

/-- A check that throws. -/
theorem respects_check {c : Prop} [Decidable c] {e : Raise} {x y : Unit → Chain α}
    (hxy : R (x ()).run (y ()).run) :
    R (if c then throw e >>= x else x ()).run (if c then throw e >>= y else y ()).run :=
  respects_ite (respects_bind hR (respects_throw hR e) fun _ => hxy) hxy

/-- A check that throws when it fails. -/
theorem respects_unless {c : Prop} [Decidable c] {e : Raise} {x y : Unit → Chain α}
    (hxy : R (x ()).run (y ()).run) :
    R (if c then x () else throw e >>= x).run (if c then y () else throw e >>= y).run :=
  respects_ite hxy (respects_bind hR (respects_throw hR e) fun _ => hxy)

end Steps

/-! ## Operations without requests -/

section Alone

variable (hR : Stepwise env R)
include hR

theorem respects_require (o : Object) : R (require env o).run (require env o).run := by
  unfold require
  split
  · exact respects_pure hR _
  · exact respects_throw hR _

theorem respects_openFrame (command : Object) : R (openFrame command) (openFrame command) :=
  hR.bind (hR.frames _) fun _ => hR.own (Account.leaves_mark rfl) (Account.plain_mark _)

theorem respects_takeRootEvents : R takeRootEvents takeRootEvents :=
  hR.frames fun fs => (rootEvents fs, emptyRoot fs)

theorem respects_notify (event : Object) : R (notify env event).run (notify env event).run := by
  unfold notify
  cases hsink : env.sink with
  | none => exact respects_pure hR _
  | some sink =>
    -- the mark and what the sink does are one step
    have hgive : (do
        Account.mark (.sunk event)
        ofOutcome (← sink.receive event) : Chain Unit) =
        (liftM (sink.give event) : Chain (Outcome Unit)) >>= fun outcome => ofOutcome outcome := by
      rw [Sink.give, liftM_bind, bind_assoc]
    dsimp only
    rw [hgive]
    refine respects_bind hR (respects_lift hR (hR.sink event hsink)) fun outcome => ?_
    exact respects_outcome hR outcome

theorem respects_validate (command : Object) (typeName : String) :
    R (validate env command typeName).run (validate env command typeName).run := by
  have hvalidates := (Validation.handling_validates env.registry env.services env.token command).1
  have hown := hvalidates.mono fun _ => Mark.isOwn_of_isValidating
  refine respects_bind hR (respects_own hR hown Validation.plain_handling) fun outcome => ?_
  refine respects_bind hR (respects_outcome hR outcome) fun result => ?_
  exact respects_ite (respects_pure hR _) (respects_throw hR _)

end Alone

/-! ## Operations -/

section Operations

variable {answer answer' : (q : ContextRequest) → OnStack q.Reply} (hR : Stepwise env R)
  (hanswer : ∀ q, R (answer q) (answer' q))
include hR hanswer

theorem respects_runProgram {α : Type} (p : ChainProgram α) :
    R (runProgram answer p).run (runProgram answer' p).run := by
  induction p with
  | done outcome => exact respects_outcome hR outcome
  | ask request next ih => exact hR.bind (hanswer request) ih

theorem respects_callEventHandlers (event : Object)
    (slots : List (Slot D (EventHandler D) × Nat)) :
    R (callEventHandlers env answer event slots).run
      (callEventHandlers env answer' event slots).run := by
  induction slots with
  | nil => exact respects_pure hR _
  | cons slot rest ih =>
    refine respects_bind hR (respects_act hR _) fun handler => ?_
    refine respects_bind hR (respects_mark hR rfl) fun _ => ?_
    exact respects_bind hR (respects_runProgram hR hanswer _) fun _ => ih

theorem respects_dispatch (event : Object) :
    R (dispatch env answer event).run (dispatch env answer' event).run := by
  refine respects_bind hR (respects_require hR event) fun d => respects_unless hR ?_
  refine respects_bind hR (respects_mark hR rfl) fun _ => ?_
  exact respects_callEventHandlers hR hanswer event _

theorem respects_emit (event : Object) :
    R (emit env answer event).run (emit env answer' event).run := by
  refine respects_bind hR (respects_lift hR (respects_get hR)) fun frames => ?_
  cases frames.getLast? with
  | none => exact respects_throw hR _
  | some top =>
    refine respects_bind hR (respects_require hR _) fun d => ?_
    have hqueue (event : Object) : R (do
        modify (joinTop [event])
        Account.mark (.queued event) : Chain Unit).run (do
        modify (joinTop [event])
        Account.mark (.queued event) : Chain Unit).run :=
      respects_bind hR (respects_lift hR (hR.frames _)) fun _ => respects_mark hR rfl
    cases d.kind with
    | command => exact respects_throw hR _
    | commandWithResult => exact respects_throw hR _
    | routedEvent => exact hqueue _
    | callerOnlyEvent => exact hqueue _
    | callerOnlyImmediateEvent => exact respects_notify hR _
    | routedImmediateEvent =>
      refine respects_ite ?_ (respects_notify hR _)
      exact respects_bind hR (respects_dispatch hR hanswer _) fun _ => respects_notify hR _

theorem respects_callPostHandlers (command : Object) (result : CommandResult)
    (slots : List (Slot D (PostHandler D) × Nat)) :
    R (callPostHandlers env answer command result slots).run
      (callPostHandlers env answer' command result slots).run := by
  induction slots with
  | nil => exact respects_pure hR _
  | cons slot rest ih =>
    refine respects_bind hR (respects_act hR _) fun post => ?_
    refine respects_bind hR (respects_mark hR rfl) fun _ => ?_
    exact respects_bind hR (respects_runProgram hR hanswer _) fun _ => ih

theorem respects_rawExecute (command : Object) (validated : Bool) :
    R (rawExecute env answer command validated).run
      (rawExecute env answer' command validated).run := by
  refine respects_bind hR (respects_require hR command) fun d => respects_unless hR ?_
  cases d.handler with
  | none => exact respects_throw hR _
  | some elected =>
    have hrun : R (do
        let handler ← act (elected.2.resolve env.services)
        Account.mark (.handler command)
        let result ← runProgram answer (handler env.services command)
        callPostHandlers env answer command result d.postHandlers.zipIdx
        return result : Chain CommandResult).run (do
        let handler ← act (elected.2.resolve env.services)
        Account.mark (.handler command)
        let result ← runProgram answer' (handler env.services command)
        callPostHandlers env answer' command result d.postHandlers.zipIdx
        return result : Chain CommandResult).run := by
      refine respects_bind hR (respects_act hR _) fun handler => ?_
      refine respects_bind hR (respects_mark hR rfl) fun _ => ?_
      refine respects_bind hR (respects_runProgram hR hanswer _) fun result => ?_
      refine respects_bind hR (respects_callPostHandlers hR hanswer _ _ _) fun _ => ?_
      exact respects_pure hR _
    refine respects_ite hrun ?_
    exact respects_bind hR (respects_validate hR command _) fun _ => hrun

theorem respects_executeNested (command : Object) (stop giveEvents : Bool) :
    R (executeNested env answer command stop giveEvents).run
      (executeNested env answer' command stop giveEvents).run := by
  refine respects_bind hR (respects_lift hR (respects_get hR)) fun frames => respects_check hR ?_
  refine respects_bind hR (respects_lift hR (respects_openFrame hR command)) fun _ => ?_
  have hraw := respects_rawExecute hR hanswer command false
  refine respects_bind hR (respects_attempt hR hraw) fun outcome => ?_
  have htake := respects_lift hR (hR.frames fun fs => ((), fs.take frames.length))
  -- the three ways to go on: the frame is closed without its events, left behind, or read out
  rcases outcome with (f | p) | result
  · refine respects_bind hR htake fun _ => respects_bind hR (respects_mark hR rfl) fun _ => ?_
    exact respects_throw hR _
  · exact respects_throw hR _
  · refine respects_bind hR (respects_lift hR (respects_get hR)) fun _ => ?_
    refine respects_bind hR htake fun _ => respects_ite ?_ ?_
    · exact respects_bind hR (respects_mark hR rfl) fun _ => respects_pure hR _
    · refine respects_bind hR (respects_lift hR (respects_get hR)) fun _ => ?_
      refine respects_ite (respects_throw hR _) ?_
      refine respects_bind hR (respects_lift hR (hR.frames _)) fun _ => ?_
      exact respects_bind hR (respects_mark hR rfl) fun _ => respects_pure hR _

/-- The walk over the events of the root is bounded as well, so a larger bound comes with a greater
depth. -/
theorem respects_finalDispatch {limit limit' : Nat} (hlimit : limit ≤ limit')
    (events : List Object) : R (finalDispatch env answer limit events).run
      (finalDispatch env answer' limit' events).run := by
  induction limit generalizing limit' events with
  | zero =>
    cases events with
    -- an empty queue is done whatever the bound is; a walk that may not begin has no result
    | nil => cases limit' <;> exact respects_pure hR _
    | cons event rest => exact hR.failure _
  | succ limit ih =>
    obtain ⟨limit', rfl⟩ : ∃ m, limit' = m + 1 := Nat.exists_eq_add_one.mpr (by omega)
    have hle : limit ≤ limit' := Nat.le_of_succ_le_succ hlimit
    cases events with
    | nil => exact respects_pure hR _
    | cons event rest =>
      unfold finalDispatch
      refine respects_ite ?_ ?_
      · refine respects_bind hR (respects_dispatch hR hanswer event) fun _ => ?_
        refine respects_bind hR (respects_lift hR (respects_takeRootEvents hR)) fun more => ?_
        exact respects_bind hR (ih hle _) fun _ => respects_pure hR _
      · exact respects_bind hR (ih hle _) fun _ => respects_pure hR _

theorem respects_runRoot {limit limit' : Nat} (hlimit : limit ≤ limit') (command : Object)
    (validated : Bool) : R (runRoot env answer limit command validated).run
      (runRoot env answer' limit' command validated).run := by
  refine respects_bind hR (respects_lift hR (respects_openFrame hR command)) fun _ => ?_
  refine respects_bind hR (respects_rawExecute hR hanswer command validated) fun result => ?_
  refine respects_bind hR (respects_lift hR (respects_takeRootEvents hR)) fun events => ?_
  exact respects_bind hR (respects_finalDispatch hR hanswer hlimit events) fun _ =>
    respects_pure hR _

theorem respects_executeRoot {limit limit' : Nat} (hlimit : limit ≤ limit') (command : Object)
    (validated : Bool) : R (executeRoot env answer limit command validated).run
      (executeRoot env answer' limit' command validated).run := by
  refine respects_bind hR (respects_lift hR (respects_get hR)) fun frames => respects_check hR ?_
  have hroot := respects_runRoot hR hanswer hlimit command validated
  refine respects_bind hR (respects_attempt hR hroot) fun outcome => ?_
  refine respects_bind hR (respects_lift hR (hR.frames fun _ => ((), []))) fun _ => ?_
  exact respects_bind hR (respects_mark hR rfl) fun _ => respects_outcome hR outcome

/-- Requests are answered by operations.  That safe dispatches are respected is left to whoever has
the relation. -/
theorem respects_serve {limit limit' : Nat} (hlimit : limit ≤ limit')
    (hsafe : ∀ event, R (dispatchSafe env answer event) (dispatchSafe env answer' event))
    (q : ContextRequest) : R (serve env answer limit q) (serve env answer' limit' q) := by
  cases q with
  | execute command =>
    exact respects_map hR (respects_executeNested hR hanswer command false false) Prod.fst
  | executeWithEvents command stop => exact respects_executeNested hR hanswer command stop true
  | executeRoot command => exact respects_executeRoot hR hanswer hlimit command false
  | emit event => exact respects_emit hR hanswer event
  | dispatch event => exact respects_dispatch hR hanswer event
  | dispatchSafe event => exact hsafe event
  | view => exact hR.bind (respects_get hR) fun _ => respects_pure hR _
  | sign s => exact hR.own (Account.leaves_sign s) (Account.plain_sign s)

end Operations

/-! ## The knot -/

/-- Safe dispatches are respected when all requests within are. -/
def SafeDispatches (env : Environment D) (R : ∀ {α : Type}, OnStack α → OnStack α → Prop) : Prop :=
  ∀ {n m : Nat}, n ≤ m → (∀ q, R (perform env n q) (perform env m q)) → ∀ event,
    R (dispatchSafe env (perform env n) event) (dispatchSafe env (perform env m) event)

section Stepwise

variable (hR : Stepwise env R) (hsafe : SafeDispatches env R)
include hR hsafe

/-- **Whatever is requested** is related to the same request within any greater depth of nesting. -/
theorem Stepwise.perform {n m : Nat} (hnm : n ≤ m) (q : ContextRequest) :
    R (Chain.perform env n q) (Chain.perform env m q) := by
  -- `m` varies with `n`: the nested requests have one level less on both sides
  induction n generalizing m q with
  | zero => exact hR.failure _
  | succ n ih =>
    obtain ⟨m, rfl⟩ : ∃ k, m = k + 1 := Nat.exists_eq_add_one.mpr (by omega)
    have hle : n ≤ m := Nat.le_of_succ_le_succ hnm
    have hanswer (q : ContextRequest) : R (Chain.perform env n q) (Chain.perform env m q) :=
      ih hle q
    exact respects_serve hR hanswer hle (hsafe hle hanswer) q

/-- **Every root command** is related to itself within any greater depth of nesting. -/
theorem Stepwise.executeRoot {n m : Nat} (hnm : n ≤ m) (command : Object) (validated : Bool) :
    R (Chain.executeRoot env (Chain.perform env n) n command validated).run
      (Chain.executeRoot env (Chain.perform env m) m command validated).run :=
  respects_executeRoot hR (fun q => hR.perform hsafe hnm q) hnm command validated

end Stepwise

section Congruence

variable (hR : Congruence env R)
include hR

theorem respects_dispatchSafe {answer answer' : (q : ContextRequest) → OnStack q.Reply}
    (hanswer : ∀ q, R (answer q) (answer' q)) (event : Object) :
    R (dispatchSafe env answer event) (dispatchSafe env answer' event) := by
  refine hR.bind (respects_get hR.toStepwise) fun frames => ?_
  refine hR.bind (respects_dispatch hR.toStepwise hanswer event) fun outcome => ?_
  rcases outcome with (f | p) | _
  · exact hR.bind (hR.contained rfl) fun _ => respects_pure hR.toStepwise _
  · refine hR.bind (hR.frames _) fun _ => ?_
    refine hR.bind (hR.own (Account.leaves_mark rfl) (Account.plain_mark _)) fun _ => ?_
    exact hR.bind (hR.contained rfl) fun _ => respects_pure hR.toStepwise _
  · exact respects_pure hR.toStepwise _

theorem Congruence.safeDispatches : SafeDispatches env R :=
  fun _ hanswer => respects_dispatchSafe hR hanswer

theorem Congruence.perform {n m : Nat} (hnm : n ≤ m) (q : ContextRequest) :
    R (Chain.perform env n q) (Chain.perform env m q) :=
  hR.toStepwise.perform hR.safeDispatches hnm q

theorem Congruence.executeRoot {n m : Nat} (hnm : n ≤ m) (command : Object) (validated : Bool) :
    R (Chain.executeRoot env (Chain.perform env n) n command validated).run
      (Chain.executeRoot env (Chain.perform env m) m command validated).run :=
  hR.toStepwise.executeRoot hR.safeDispatches hnm command validated

end Congruence

/-! ## The depth of nesting -/

section Nesting

variable {D : Type}

/-- Whatever `x` ends in, `y` ends in as well. -/
def Below {α : Type} (x y : OnStack α) : Prop :=
  ∀ ⦃fs h a fs'⦄, Ends x fs h a fs' → Ends y fs h a fs'

theorem Below.refl {α : Type} (x : OnStack α) : Below x x := fun _ _ _ _ hends => hends

theorem Below.bind {α β : Type} {x y : OnStack α} {f g : α → OnStack β} (hxy : Below x y)
    (hfg : ∀ a, Below (f a) (g a)) : Below (x >>= f) (y >>= g) := by
  intro fs h b fs' hends
  obtain ⟨a, mid, h₁, h₂, hfirst, hrest, rfl⟩ := ends_bind.mp hends
  exact ends_bind.mpr ⟨a, mid, h₁, h₂, hxy hfirst, hfg a hrest, rfl⟩

theorem Below.congruence (env : Environment D) : Congruence env Below where
  bind hxy hfg := hxy.bind hfg
  frames _ := .refl _
  own _ _ := .refl _
  sink _ _ := .refl _
  failure _ := fun _ _ _ _ hends => absurd hends not_ends_failure
  contained _ := .refl _

/-- **The bound does not matter.**  A root command that ends within a depth of nesting ends in the
same way within any greater depth. -/
theorem below_executeRoot (env : Environment D) {n m : Nat} (hnm : n ≤ m) (command : Object)
    (validated : Bool) : Below (executeRoot env (perform env n) n command validated).run
      (executeRoot env (perform env m) m command validated).run :=
  (Below.congruence env).executeRoot hnm command validated

end Nesting
end Chain
end CommandEngine
