import CommandEngine.Proofs.Chain.Composition

/-!
# What operations do to the frames below them

Handlers, post-handlers and event handlers may be any programs, but for one thing: a panic cannot
be looked at.  Whoever is given a panic as the reply to a request ends in that panic; only the
engine contains one, in a safe dispatch and at the root of the chain.

Given this, every operation of a chain makes a passage over the frames it is begun on.  An
operation `Keeps` frames if all its runs do, and keeping is closed under sequences, so what
remains is to look at the operations that move frames themselves: a nested command, an emission
and a safe dispatch.  The requests of a program are answered by operations whose programs are
nested less deep, so the induction is on the depth of nesting.
-/
namespace CommandEngine

/-! ## Programs that pass panics on -/

/-- The panic that an outcome is. -/
def Outcome.panic? {α : Type} : Outcome α → Option Panic
  | .error (.panic p) => some p
  | _ => none

/-- The panic that a reply is. -/
def ContextRequest.panic? : (q : ContextRequest) → q.Reply → Option Panic
  | execute _, reply => Outcome.panic? reply
  | executeWithEvents _ _, reply => Outcome.panic? reply
  | executeRoot _, reply => Outcome.panic? reply
  | emit _, reply => Outcome.panic? reply
  | dispatch _, reply => Outcome.panic? reply
  | dispatchSafe _, _ => none
  | view, _ => none
  | sign _, _ => none

/-- A program that ends in a panic as soon as it is given one. -/
inductive ChainProgram.PassesPanics {α : Type} : ChainProgram α → Prop
  | done (outcome : Outcome α) : PassesPanics (.done outcome)
  | ask {request : ContextRequest} {next : request.Reply → ChainProgram α}
      (stops : ∀ reply p, request.panic? reply = some p → next reply = .done (.error (.panic p)))
      (goesOn : ∀ reply, request.panic? reply = none → PassesPanics (next reply)) :
      PassesPanics (.ask request next)

theorem Outcome.eq_of_panic? {α : Type} {out : Outcome α} {p : Panic}
    (hpanic : Outcome.panic? out = some p) : out = .error (.panic p) := by
  rcases out with (f | p') | a
  · cases hpanic
  · cases hpanic
    rfl
  · cases hpanic

/-- Programs made of programs that pass panics on pass panics on. -/
theorem ChainProgram.PassesPanics.bind {α β : Type} {p : ChainProgram α}
    {f : α → ChainProgram β} (hp : ChainProgram.PassesPanics p)
    (hf : ∀ a, ChainProgram.PassesPanics (f a)) : ChainProgram.PassesPanics (p >>= f) := by
  induction hp with
  | done outcome =>
    cases outcome with
    | ok a => exact hf a
    | error e => exact .done (.error e)
  | @ask request next stops _ ih =>
    refine .ask (fun reply p hpanic => ?_) ih
    show next reply >>= f = _
    rw [stops reply p hpanic]
    rfl

/-- Application code that passes panics on. -/
structure Registry.PassesPanics {D : Type} (r : Registry D) (services : D) : Prop where
  handlers : ∀ d ∈ r.descriptors, ∀ signature slot, d.handler = some (signature, slot) →
    slot.All services fun handler => ∀ command, (handler services command).PassesPanics
  postHandlers : ∀ d ∈ r.descriptors, ∀ slot ∈ d.postHandlers,
    slot.All services fun post => ∀ command result, (post services command result).PassesPanics
  eventHandlers : ∀ d ∈ r.descriptors, ∀ slot ∈ d.eventHandlers,
    slot.All services fun handler => ∀ event, (handler services event).PassesPanics

theorem Registry.PassesPanics.gives {D : Type} {r : Registry D} {services : D}
    (hr : r.PassesPanics services) : r.Gives services ChainProgram.PassesPanics :=
  ⟨hr.handlers, hr.postHandlers, hr.eventHandlers⟩

namespace Chain

/-! ## Keeping frames -/

section Keeps

variable {α β : Type} {fs fs' : List Frame} {h : List Happening} {out : Outcome α}

/-- Every run of an operation makes a passage over the frames it is begun on. -/
def Keeps (x : Chain α) : Prop :=
  ∀ ⦃fs h out fs'⦄, Ends x.run fs h out fs' →
    Passage (Outcome.panic? out).isSome fs (marks h) fs'

theorem keeps_of_quiet {x : Chain α} (hx : ∀ {fs h out fs'}, Ends x.run fs h out fs' →
    (∀ m ∈ marks h, m.isQuiet) ∧ fs' = fs) : Keeps x := by
  intro fs h out fs' hends
  obtain ⟨hquiet, rfl⟩ := hx hends
  exact passage_quiets hquiet

/-- Keeping is inherited by sequences: what comes after a part that returned begins on frames that
are as they were, but for events on top. -/
theorem keeps_compositional : Compositional Keeps where
  outcome outcome := by
    refine keeps_of_quiet fun hends => ?_
    obtain ⟨rfl, -, rfl⟩ := ends_ofOutcome.mp hends
    exact ⟨nofun, rfl⟩
  quiet ha := by
    refine keeps_of_quiet fun hends => ?_
    obtain ⟨rfl, -, rfl⟩ := ends_lift_run.mp hends
    exact ⟨ha, rfl⟩
  get := by
    refine keeps_of_quiet fun hends => ?_
    obtain ⟨rfl, -, rfl⟩ := ends_get_run.mp hends
    exact ⟨nofun, rfl⟩
  queue event := by
    intro fs h out fs' hends
    rw [ends_modify_bind] at hends
    obtain ⟨rfl, rfl, rfl⟩ := ends_lift_run.mp hends
    exact returns_queued
  bind_of hx hf := by
    intro fs h out fs' hends
    rcases ends_bind_run.mp hends with ⟨e, hfirst, rfl⟩ | ⟨a, mid, h₁, h₂, hfirst, hrest, rfl⟩
    · cases e with
      | failure f => exact hx hfirst
      | panic p => exact hx hfirst
    · have hreturns : Returns fs (marks h₁) mid := hx hfirst
      rw [marks_append]
      exact hreturns.passage (hf hfirst hrest)

end Keeps

/-! ## Lookups -/

section Lookups

variable {D : Type} {env : Environment D} {o : Object}

theorem require_of_found {d : Descriptor D} (hd : env.registry.descriptorOf? o = some d) :
    require env o = pure d := by
  rw [require, Registry.require, hd]

theorem require_of_unknown (hunknown : env.registry.descriptorOf? o = none) :
    require env o = throw (EngineError.unknownType o.type.name : Raise) := by
  rw [require, Registry.require, hunknown]

end Lookups

/-! ## How operations that move frames end -/

section Endings

variable {D : Type} {env : Environment D} {answer : (q : ContextRequest) → OnStack q.Reply}
  {fs fs' : List Frame} {h : List Happening}

/-- How the frame of a nested command is closed, given the outcome of the command and the frames it
left: the marks, the outcome of the request and the frames after it. -/
inductive Closes (stop giveEvents : Bool) (depth : Nat) (mid : List Frame) :
    Outcome CommandResult → List Happening → Outcome (CommandResult × List Object) →
      List Frame → Prop
  /-- The frame is left to whoever contains the panic. -/
  | panicked (p : Panic) :
    Closes stop giveEvents depth mid (.error (.panic p)) [] (.error (.panic p)) mid
  | failed (f : Failure) : Closes stop giveEvents depth mid (.error (.failure f))
      [.mark (.closed .failed)] (.error (.failure f)) (mid.take depth)
  | withheld (result : CommandResult) (hstop : stop) : Closes stop giveEvents depth mid (.ok result)
      [.mark (.closed .withheld)] (.ok (result, (mid[depth]?.map (·.pending)).getD []))
      (mid.take depth)
  /-- There is no calling frame any more. -/
  | orphaned (result : CommandResult) (hstop : ¬ stop) (hempty : mid.take depth = []) :
    Closes stop giveEvents depth mid (.ok result) []
      (.error (EngineError.chainEnded : Raise)) (mid.take depth)
  | joined (result : CommandResult) (hstop : ¬ stop) : Closes stop giveEvents depth mid (.ok result)
      [.mark (.closed .joined)]
      (.ok (result, if giveEvents then (mid[depth]?.map (·.pending)).getD [] else []))
      (joinTop ((mid[depth]?.map (·.pending)).getD []) (mid.take depth))

/-- A nested command is refused outside a chain; inside it gets a frame, which is then closed. -/
theorem ends_executeNested {command : Object} {stop giveEvents : Bool}
    {out : Outcome (CommandResult × List Object)}
    (hends : Ends (executeNested env answer command stop giveEvents).run fs h out fs') :
    (fs = [] ∧ h = [] ∧ out = .error (EngineError.noChainToExecute : Raise) ∧ fs' = []) ∨
      ∃ inner mid h₁ h₂, fs ≠ [] ∧
        Ends (rawExecute env answer command false).run (fs ++ [⟨command, []⟩]) h₁ inner mid ∧
        Closes stop giveEvents fs.length mid inner h₂ out fs' ∧
        h = [.mark (.opened command)] ++ (h₁ ++ h₂) := by
  unfold executeNested at hends
  rw [ends_get_bind] at hends
  dsimp only at hends
  split at hends
  · rename_i hdepth
    obtain ⟨rfl, rfl, rfl⟩ := ends_throw_bind.mp hends
    have hnone := List.length_eq_zero_iff.mp hdepth
    exact .inl ⟨hnone, rfl, rfl, hnone⟩
  · rename_i hdepth
    obtain ⟨_, _, _, _, hopen, hattempt, rfl⟩ := ends_frames_bind.mp hends
    obtain ⟨rfl, -, rfl⟩ := ends_openFrame.mp hopen
    obtain ⟨inner, mid, h₁, h₂, hraw, hclose, rfl⟩ := ends_attempt_bind.mp hattempt
    refine .inr ⟨inner, mid, h₁, h₂, fun hnone => hdepth (hnone ▸ rfl), hraw, ?_, rfl⟩
    rcases inner with (f | p) | result
    · obtain ⟨_, hthrow, rfl⟩ := ends_mark_bind.mp (ends_modify_bind.mp hclose)
      obtain ⟨rfl, rfl, rfl⟩ := ends_throw_run.mp hthrow
      exact .failed f
    · obtain ⟨rfl, rfl, rfl⟩ := ends_throw_run.mp hclose
      exact .panicked p
    · rw [ends_get_bind, ends_modify_bind] at hclose
      split at hclose
      · obtain ⟨_, hpure, rfl⟩ := ends_mark_bind.mp hclose
        obtain ⟨rfl, rfl, rfl⟩ := ends_pure_run.mp hpure
        exact .withheld result ‹_›
      · rw [ends_get_bind] at hclose
        split at hclose
        · obtain ⟨rfl, rfl, rfl⟩ := ends_throw_run.mp hclose
          exact .orphaned result ‹_› (List.isEmpty_iff.mp ‹_›)
        · obtain ⟨_, hpure, rfl⟩ := ends_mark_bind.mp (ends_modify_bind.mp hclose)
          obtain ⟨rfl, rfl, rfl⟩ := ends_pure_run.mp hpure
          exact .joined result ‹_›

/-- Of what a nested command ends in, whoever executes it gets the result. -/
theorem ends_execute {limit : Nat} {command : Object} {out : Outcome CommandResult} :
    Ends (serve env answer limit (.execute command)) fs h out fs' ↔ ∃ inner,
      Ends (executeNested env answer command false false).run fs h inner fs' ∧
        out = inner.map Prod.fst := by
  have hserve : serve env answer limit (.execute command) =
      (executeNested env answer command false false >>= fun given => pure given.1).run :=
    congrArg ExceptT.run (bind_pure_comp Prod.fst _).symm
  rw [hserve, ends_bind_pure]

/-- A root command is refused inside a chain; outside it runs, and whatever frames it leaves are
dropped. -/
theorem ends_executeRoot {limit : Nat} {command : Object} {validated : Bool}
    {out : Outcome ExecutionOutcome} :
    Ends (executeRoot env answer limit command validated).run fs h out fs' ↔
      (fs ≠ [] ∧ h = [] ∧ out = .error (EngineError.chainActive : Raise) ∧ fs' = fs) ∨
      ∃ h₁ mid, fs = [] ∧ Ends (runRoot env answer limit command validated).run [] h₁ out mid ∧
        h = h₁ ++ [.mark .ended] ∧ fs' = [] := by
  unfold executeRoot
  rw [ends_get_bind]
  rcases fs with _ | ⟨f, fs⟩
  · rw [if_neg (by simp), ends_attempt_bind]
    constructor
    · rintro ⟨inner, mid, h₁, h₂, hrun, hset, rfl⟩
      obtain ⟨h₃, hout, rfl⟩ := ends_mark_bind.mp (ends_set_bind.mp hset)
      obtain ⟨rfl, rfl, rfl⟩ := ends_ofOutcome.mp hout
      exact .inr ⟨h₁, mid, rfl, hrun, rfl, rfl⟩
    · rintro (⟨hne, -⟩ | ⟨h₁, mid, -, hrun, rfl, rfl⟩)
      · exact absurd rfl hne
      · refine ⟨out, mid, h₁, _, hrun, ends_set_bind.mpr (ends_mark_bind.mpr ⟨[], ?_, rfl⟩), rfl⟩
        exact ends_ofOutcome.mpr ⟨rfl, rfl, rfl⟩
  · rw [if_pos (by simp), ends_throw_bind]
    constructor
    · rintro ⟨rfl, rfl, rfl⟩
      exact .inl ⟨List.cons_ne_nil _ _, rfl, rfl, rfl⟩
    · rintro (⟨-, rfl, rfl, rfl⟩ | ⟨_, _, hnone, -⟩)
      · exact ⟨rfl, rfl, rfl⟩
      · cases hnone

/-- What a safe dispatch does about the outcome of the dispatch. -/
inductive Contained (env : Environment D) (event : Object) (depth : Nat) (mid : List Frame) :
    Outcome Unit → List Happening → Bool → List Frame → Prop
  | returned : Contained env event depth mid (.ok ()) [] true mid
  | failed (f : Failure) : Contained env event depth mid (.error (.failure f))
      [.log (.dispatchFailed env.token event.type.name f)] false mid
  | panicked (p : Panic) : Contained env event depth mid (.error (.panic p))
      [.mark (.cut depth), .log (.eventHandlerPanicked env.token event.type.name p)] false
      (mid.take depth)

/-- A safe dispatch is a dispatch whose outcome is contained. -/
theorem ends_dispatchSafe {event : Object} {returned : Bool}
    (hends : Ends (dispatchSafe env answer event) fs h returned fs') : ∃ out mid h₁ h₂,
      Ends (dispatch env answer event).run fs h₁ out mid ∧
      Contained env event fs.length mid out h₂ returned fs' ∧ h = h₁ ++ h₂ := by
  rw [dispatchSafe, ends_frames] at hends
  obtain ⟨out, mid, h₁, h₂, hdispatch, hcontained, rfl⟩ := ends_bind.mp hends
  refine ⟨out, mid, h₁, h₂, hdispatch, ?_, rfl⟩
  rcases out with (f | p) | _
  · obtain ⟨rfl, rfl, rfl⟩ := (ends_of_run rfl).mp hcontained
    exact .failed f
  · obtain ⟨rfl, rfl, rfl⟩ := (ends_of_run rfl).mp hcontained
    exact .panicked p
  · obtain ⟨rfl, rfl, rfl⟩ := ends_pure.mp hcontained
    exact .returned

/-- An emitted event that waits is queued, stamped, on the frame on top; nothing else happens. -/
theorem ends_emit_waiting {event : Object} {top : Frame} {d : Descriptor D} {out : Outcome Unit}
    (htop : fs.getLast? = some top)
    (hd : env.registry.descriptorOf? (event.stamp top.command env.party) = some d)
    (hkind : d.kind = .routedEvent ∨ d.kind = .callerOnlyEvent) :
    Ends (emit env answer event).run fs h out fs' ↔
      h = [.mark (.queued (event.stamp top.command env.party))] ∧ out = .ok () ∧
        fs' = joinTop [event.stamp top.command env.party] fs := by
  unfold emit
  rw [ends_get_bind, htop]
  dsimp only
  rw [require_of_found hd, pure_bind]
  rcases hkind with hkind | hkind
  · rw [hkind]
    exact ends_of_run rfl
  · rw [hkind]
    exact ends_of_run rfl

end Endings

section Operations

variable {D : Type} {env : Environment D} {answer : (q : ContextRequest) → OnStack q.Reply}

/-- Every answer makes a passage over the frames of the program that asks. -/
def Answers (answer : (q : ContextRequest) → OnStack q.Reply) : Prop :=
  ∀ ⦃q fs h reply fs'⦄, Ends (answer q) fs h reply fs' →
    Passage (q.panic? reply).isSome fs (marks h) fs'

theorem keeps_runProgram (hanswer : Answers answer) {α : Type} {p : ChainProgram α}
    (hp : p.PassesPanics) : Keeps (runProgram answer p) := by
  induction hp with
  | done outcome => exact keeps_compositional.outcome outcome
  | @ask request next stops goesOn ih =>
    intro fs h out fs' hends
    obtain ⟨reply, mid, h₁, h₂, hreply, hrest, rfl⟩ := ends_bind.mp hends
    have hpassage := hanswer hreply
    rw [marks_append]
    cases hpanic : request.panic? reply with
    | none =>
      rw [hpanic] at hpassage
      exact Returns.passage hpassage (ih reply hpanic hrest)
    | some p =>
      -- nothing runs after the panic, so the frames are those that it left
      rw [stops reply p hpanic] at hrest
      obtain ⟨rfl, rfl, rfl⟩ := ends_pure.mp hrest
      rw [hpanic] at hpassage
      rwa [marks_nil, List.append_nil]

variable (hregistry : env.registry.PassesPanics env.services) (hanswer : Answers answer)

include hregistry hanswer

theorem keeps_dispatch (event : Object) : Keeps (dispatch env answer event) :=
  keeps_compositional.dispatch (keeps_runProgram hanswer) hregistry.gives event

theorem keeps_emit (event : Object) : Keeps (emit env answer event) :=
  keeps_compositional.emit (keeps_runProgram hanswer) hregistry.gives event

theorem keeps_rawExecute (command : Object) (validated : Bool) :
    Keeps (rawExecute env answer command validated) :=
  keeps_compositional.rawExecute (keeps_runProgram hanswer) hregistry.gives command validated

/-- A nested command closes its frame, unless a panic is on its way. -/
theorem keeps_executeNested (command : Object) (stop giveEvents : Bool) :
    Keeps (executeNested env answer command stop giveEvents) := by
  intro fs h out fs' hends
  rcases ends_executeNested hends with hrefused | ⟨inner, mid, h₁, h₂, hne, hraw, hclose, rfl⟩
  · obtain ⟨rfl, rfl, -, rfl⟩ := hrefused
    exact passage_refl
  · have hpassage := keeps_rawExecute hregistry hanswer command false hraw
    rw [marks_append, marks_append]
    cases hclose with
    | panicked =>
      have hunwinds : Unwinds (fs ++ [_]) (marks h₁) fs' := hpassage
      rw [marks_nil, List.append_nil]
      exact hunwinds.opened
    | failed =>
      have hreturns : Returns (fs ++ [_]) (marks h₁) mid := hpassage
      exact hreturns.closed rfl
    | withheld =>
      have hreturns : Returns (fs ++ [_]) (marks h₁) mid := hpassage
      exact hreturns.closed rfl
    | orphaned _ _ hempty =>
      -- the calling frame is below the nested one, and what runs above a frame does not drop it
      have hreturns : Returns (fs ++ [_]) (marks h₁) mid := hpassage
      exact absurd (hreturns.take_concat ▸ hempty) hne
    | joined =>
      have hreturns : Returns (fs ++ [_]) (marks h₁) mid := hpassage
      rw [hreturns.pending_concat]
      exact hreturns.joined

/-- A safe dispatch drops what a panic left. -/
theorem returns_dispatchSafe {event : Object} {fs fs' : List Frame} {h : List Happening}
    {returned : Bool} (hends : Ends (dispatchSafe env answer event) fs h returned fs') :
    Returns fs (marks h) fs' := by
  obtain ⟨out, mid, h₁, h₂, hdispatch, hcontained, rfl⟩ := ends_dispatchSafe hends
  have hpassage := keeps_dispatch hregistry hanswer event hdispatch
  rw [marks_append]
  cases hcontained with
  | returned =>
    have hreturns : Returns fs (marks h₁) fs' := hpassage
    exact hreturns.trans .refl
  | failed =>
    have hreturns : Returns fs (marks h₁) fs' := hpassage
    exact hreturns.trans .refl
  | panicked =>
    have hunwinds : Unwinds fs (marks h₁) mid := hpassage
    exact hunwinds

omit hregistry hanswer in
/-- A root command is refused while a chain is active, and leaves no frame otherwise. -/
theorem keeps_executeRoot (limit : Nat) (command : Object) (validated : Bool) :
    Keeps (executeRoot env answer limit command validated) := by
  intro fs h out fs' hends
  rcases ends_executeRoot.mp hends with ⟨-, rfl, rfl, rfl⟩ | ⟨h₁, mid, rfl, -, rfl, rfl⟩
  · exact passage_refl
  · rw [marks_append]
    exact passage_empty (by rw [depthAfter_append]; rfl)

/-- Requests are answered by operations. -/
theorem answers_serve (limit : Nat) : Answers (serve env answer limit) := by
  intro q fs h reply fs' hends
  cases q with
  | execute command =>
    exact keeps_compositional.map (keeps_executeNested hregistry hanswer command false false)
      Prod.fst hends
  | executeWithEvents command stop =>
    exact keeps_executeNested hregistry hanswer command stop true hends
  | executeRoot command => exact keeps_executeRoot limit command false hends
  | emit event => exact keeps_emit hregistry hanswer event hends
  | dispatch event => exact keeps_dispatch hregistry hanswer event hends
  | dispatchSafe event => exact returns_dispatchSafe hregistry hanswer hends
  | view =>
    obtain ⟨rfl, -, rfl⟩ := (ends_of_run rfl).mp hends
    exact .refl
  | sign s =>
    obtain ⟨rfl, -, rfl⟩ := ends_lift.mp hends
    exact passage_quiets (Account.leaves_sign s)

omit hanswer in
/-- Requests are answered at every depth of nesting. -/
theorem answers_perform (n : Nat) : Answers (perform env n) := by
  induction n with
  | zero => exact fun _ _ _ _ _ hends => absurd hends not_ends_failure
  | succ n ih => exact answers_serve hregistry ih n

end Operations
end Chain
end CommandEngine
