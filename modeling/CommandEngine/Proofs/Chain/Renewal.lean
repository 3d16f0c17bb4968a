import CommandEngine.Proofs.Chain.Callers
import CommandEngine.Proofs.Chain.FinalEvents

/-!
# A context is as good as new after each chain

A root command needs an empty stack, so a context executes one chain at a time.  What is left of a
chain would be found by the next one, and a chain may be left by ways that skip every pop: a panic
goes through nested commands without closing their frames, and whoever asked for a command may look
at the panic and go on.

Whether a chain is active is all that has to be followed.  An operation is `Steady` if it is active
after the operation exactly if it was before, and if no chain ends meanwhile.  Quiet operations
leave the stack alone and an emission changes a frame, so all sequences of these are steady.  A
nested command and a safe dispatch drop frames down to the depth they were begun at, which is not
zero in a chain, and outside a chain there are none to drop.  A root command is refused in a chain,
and outside it drops all there is.  So every request is steady, by induction on the depth of
nesting (`steady_perform`), whatever the programs do with the panics they are given.

Whoever has a context can only make requests of it and execute root commands.  Both leave the empty
stack of a new context empty, and the rest of a context never changes.
-/
namespace CommandEngine
namespace Chain

variable {D α β : Type} {env : Environment D} {answer : (q : ContextRequest) → OnStack q.Reply}
  {fs fs' : List Frame} {h : List Happening}

theorem joinTop_eq_nil {events : List Object} : joinTop events fs = [] ↔ fs = [] := by
  rw [← List.length_eq_zero_iff, length_joinTop, List.length_eq_zero_iff]

theorem emptyRoot_eq_nil : emptyRoot fs = [] ↔ fs = [] := by
  rw [← List.length_eq_zero_iff, emptyRoot, List.length_modify, List.length_eq_zero_iff]

/-- Frames are dropped down to a depth at which some were open. -/
theorem take_length_eq_nil {mid : List Frame} (hmid : mid = [] ↔ fs = []) :
    mid.take fs.length = [] ↔ fs = [] := by
  rw [List.take_eq_nil_iff, List.length_eq_zero_iff, hmid, or_self]

/-- A chain is active after every run of the operation exactly if it was before, and an active one
does not end meanwhile. -/
def Steady (x : OnStack α) : Prop :=
  ∀ ⦃fs h a fs'⦄, Ends x fs h a fs' → (fs' = [] ↔ fs = []) ∧ (fs ≠ [] → .ended ∉ marks h)

/-- What is steady may be followed by what is steady. -/
theorem Steady.trans {x : OnStack α} {y : OnStack β} {a : α} {b : β} {mid : List Frame}
    {h₁ h₂ : List Happening} (hx : Steady x) (hfirst : Ends x fs h₁ a mid) (hy : Steady y)
    (hrest : Ends y mid h₂ b fs') : (fs' = [] ↔ fs = []) ∧ (fs ≠ [] → .ended ∉ marks (h₁ ++ h₂)) := by
  obtain ⟨hmid, hnone₁⟩ := hx hfirst
  obtain ⟨hlast, hnone₂⟩ := hy hrest
  refine ⟨hlast.trans hmid, fun hne hended => ?_⟩
  rw [marks_append] at hended
  rcases List.mem_append.mp hended with hended | hended
  · exact hnone₁ hne hended
  · exact hnone₂ (fun hnil => hne (hmid.mp hnil)) hended

theorem steady_compositional : Compositional fun {_} x => Steady x.run where
  outcome outcome := by
    intro fs h out fs' hends
    obtain ⟨rfl, -, rfl⟩ := ends_ofOutcome.mp hends
    exact ⟨Iff.rfl, fun _ => List.not_mem_nil⟩
  quiet ha := by
    intro fs h out fs' hends
    obtain ⟨rfl, -, rfl⟩ := ends_lift_run.mp hends
    exact ⟨Iff.rfl, fun _ hended => nomatch ha _ hended⟩
  get := by
    intro fs h out fs' hends
    obtain ⟨rfl, -, rfl⟩ := ends_get_run.mp hends
    exact ⟨Iff.rfl, fun _ => List.not_mem_nil⟩
  queue event := by
    intro fs h out fs' hends
    rw [ends_modify_bind] at hends
    obtain ⟨rfl, -, rfl⟩ := ends_lift_run.mp hends
    refine ⟨joinTop_eq_nil, fun _ hended => ?_⟩
    cases List.mem_singleton.mp hended
  bind_of hx hf := by
    intro fs h out fs' hends
    rcases ends_bind_run.mp hends with ⟨e, hfirst, -⟩ | ⟨a, mid, h₁, h₂, hfirst, hrest, rfl⟩
    · exact hx hfirst
    · exact hx.trans hfirst (hf hfirst) hrest

section Operations

variable (hanswer : ∀ q, Steady (answer q))
include hanswer

theorem steady_runProgram (p : ChainProgram α) : Steady (runProgram answer p).run := by
  induction p with
  | done outcome => exact steady_compositional.outcome outcome
  | ask request next ih =>
    intro fs h out fs' hends
    obtain ⟨reply, mid, h₁, h₂, hreply, hrest, rfl⟩ := ends_bind.mp hends
    exact (hanswer request).trans hreply (ih reply) hrest

theorem steady_dispatch (event : Object) : Steady (dispatch env answer event).run :=
  steady_compositional.dispatch (fun _ => steady_runProgram hanswer _) gives_any event

theorem steady_rawExecute (command : Object) (validated : Bool) :
    Steady (rawExecute env answer command validated).run :=
  steady_compositional.rawExecute (fun _ => steady_runProgram hanswer _) gives_any command validated

/-- What a panic left is dropped down to the depth of the dispatch, so nothing is left where nothing
was. -/
theorem steady_dispatchSafe (event : Object) : Steady (dispatchSafe env answer event) := by
  intro fs h returned fs' hends
  obtain ⟨out, mid, h₁, h₂, hdispatch, hcontained, rfl⟩ := ends_dispatchSafe hends
  obtain ⟨hmid, hnone⟩ := steady_dispatch hanswer event hdispatch
  have hown : .ended ∉ marks h₂ := by
    cases hcontained with
    | returned => exact List.not_mem_nil
    | failed => exact List.not_mem_nil
    | panicked => exact fun hended => nomatch List.mem_singleton.mp hended
  rw [marks_append]
  refine ⟨?_, fun hne hended => (List.mem_append.mp hended).elim (hnone hne) hown⟩
  cases hcontained with
  | returned => exact hmid
  | failed => exact hmid
  | panicked => exact take_length_eq_nil hmid

/-- A nested command is refused outside a chain, and inside it leaves the calling frame. -/
theorem steady_executeNested (command : Object) (stop giveEvents : Bool) :
    Steady (executeNested env answer command stop giveEvents).run := by
  intro fs h out fs' hends
  rcases ends_executeNested hends with
    ⟨rfl, rfl, -, rfl⟩ | ⟨inner, mid, h₁, h₂, hne, hraw, hclose, rfl⟩
  · exact ⟨Iff.rfl, fun _ => List.not_mem_nil⟩
  have hopened : fs ++ [⟨command, []⟩] ≠ [] := List.append_ne_nil_of_right_ne_nil _ (by simp)
  obtain ⟨hmid, hnone⟩ := steady_rawExecute hanswer command false hraw
  have hmid : mid = [] ↔ fs = [] := iff_of_false (fun hnil => hopened (hmid.mp hnil)) hne
  have hown : .ended ∉ marks h₂ := by
    cases hclose with
    | panicked => exact List.not_mem_nil
    | orphaned => exact List.not_mem_nil
    | failed => exact fun hended => nomatch List.mem_singleton.mp hended
    | withheld => exact fun hended => nomatch List.mem_singleton.mp hended
    | joined => exact fun hended => nomatch List.mem_singleton.mp hended
  constructor
  · cases hclose with
    | panicked => exact hmid
    | failed => exact take_length_eq_nil hmid
    | withheld => exact take_length_eq_nil hmid
    | orphaned => exact take_length_eq_nil hmid
    | joined => exact joinTop_eq_nil.trans (take_length_eq_nil hmid)
  · intro _ hended
    rw [marks_append, marks_append] at hended
    rcases List.mem_append.mp hended with hended | hended
    · cases List.mem_singleton.mp hended
    · exact (List.mem_append.mp hended).elim (hnone hopened) hown

omit hanswer in
theorem steady_executeRoot (limit : Nat) (command : Object) (validated : Bool) :
    Steady (executeRoot env answer limit command validated).run := by
  intro fs h out fs' hends
  rcases ends_executeRoot.mp hends with ⟨-, rfl, -, rfl⟩ | ⟨_, _, rfl, -, -, rfl⟩
  · exact ⟨Iff.rfl, fun _ => List.not_mem_nil⟩
  · exact ⟨Iff.rfl, fun hne => absurd rfl hne⟩

theorem steady_serve (limit : Nat) (q : ContextRequest) : Steady (serve env answer limit q) := by
  cases q with
  | execute command =>
    exact steady_compositional.map (steady_executeNested hanswer command false false) Prod.fst
  | executeWithEvents command stop => exact steady_executeNested hanswer command stop true
  | executeRoot command => exact steady_executeRoot limit command false
  | emit event =>
    exact steady_compositional.emit (fun _ => steady_runProgram hanswer _) gives_any event
  | dispatch event => exact steady_dispatch hanswer event
  | dispatchSafe event => exact steady_dispatchSafe hanswer event
  | view =>
    intro fs h reply fs' hends
    obtain ⟨rfl, -, rfl⟩ := (ends_of_run rfl).mp hends
    exact ⟨Iff.rfl, fun _ => List.not_mem_nil⟩
  | sign s =>
    intro fs h reply fs' hends
    obtain ⟨rfl, -, rfl⟩ := ends_lift.mp hends
    exact ⟨Iff.rfl, fun _ => List.not_mem_nil⟩

omit hanswer in
/-- **No request begins a chain that it does not end, or ends one that it did not begin.** -/
theorem steady_perform (n : Nat) (q : ContextRequest) : Steady (perform env n q) := by
  induction n generalizing q with
  | zero => exact fun _ _ _ _ hends => absurd hends not_ends_failure
  | succ n ih => exact steady_serve ih n q

theorem steady_finalDispatch (limit : Nat) (events : List Object) :
    Steady (finalDispatch env answer limit events).run := by
  induction limit generalizing events with
  | zero =>
    cases events with
    | nil => exact steady_compositional.pure []
    | cons => exact fun _ _ _ _ hends => absurd hends not_ends_failure_run
  | succ limit ih =>
    cases events with
    | nil => exact steady_compositional.pure []
    | cons event rest =>
      unfold finalDispatch
      split
      · refine steady_compositional.bind (steady_dispatch hanswer event) fun _ => ?_
        have htake : Steady (liftM takeRootEvents : Chain (List Object)).run := by
          intro fs h out fs' hends
          obtain ⟨more, -, htaken⟩ := Run.leads_state_run.mp hends
          obtain ⟨rfl, -, rfl⟩ := ends_takeRootEvents.mp htaken
          exact ⟨emptyRoot_eq_nil, fun _ => List.not_mem_nil⟩
        refine steady_compositional.bind htake fun more => ?_
        exact steady_compositional.bind (ih _) fun _ => steady_compositional.pure _
      · exact steady_compositional.bind (ih _) fun _ => steady_compositional.pure _

/-- Inside a chain the root command itself ends no chain, and neither does what is dispatched for
it. -/
theorem ended_once {limit : Nat} {command : Object} {validated : Bool}
    {out : Outcome ExecutionOutcome}
    (hends : Ends (executeRoot env answer limit command validated).run [] h out fs') :
    ∃ chain, h = chain ++ [.mark .ended] ∧ .mark .ended ∉ chain := by
  rcases ends_executeRoot_parts hends with ⟨hne, -⟩ | ⟨h₁, raw, mid, -, hraw, hrest⟩
  · exact absurd rfl hne
  obtain ⟨hmid, hnone₁⟩ := steady_rawExecute hanswer command validated hraw
  have hnone₁ : .mark .ended ∉ h₁ := fun hended => hnone₁ (by simp) (mem_marks.mpr hended)
  cases raw with
  | error e =>
    obtain ⟨-, rfl⟩ := hrest
    refine ⟨_, rfl, fun hended => ?_⟩
    rcases List.mem_cons.mp hended with hopened | hended
    · cases hopened
    · exact hnone₁ hended
  | ok result =>
    obtain ⟨h₂, events, left, hfinal, -, rfl⟩ := hrest
    obtain ⟨-, hnone₂⟩ := steady_finalDispatch hanswer limit _ hfinal
    have hactive : emptyRoot mid ≠ [] := by
      intro hnil
      cases hmid.mp (emptyRoot_eq_nil.mp hnil)
    refine ⟨_, rfl, fun hended => ?_⟩
    rcases List.mem_cons.mp hended with hopened | hended
    · cases hopened
    · exact (List.mem_append.mp hended).elim hnone₁
        fun hended => hnone₂ hactive (mem_marks.mpr hended)

end Operations
end Chain

/-! ## What was done with a context -/

namespace Context

open Run Chain

variable {D : Type} {c c' : Context D}

/-- A newly built context. -/
def fresh (env : Environment D) : Context D := ⟨env, []⟩

theorem eq_fresh_of_empty {env : Environment D} (henv : c.env = env) (hframes : c.frames = []) :
    c = fresh env := by
  subst henv
  rw [fresh, ← hframes]

/-- Asks for a root command. -/
def askingRoot (command : Object) : ChainProgram (Outcome ExecutionOutcome) :=
  .ask (.executeRoot command) fun outcome => .done (.ok outcome)

/-- What may have been done with a context until now.  Its owner ran programs, which make requests
of the context and may go on after any failure or panic they are given, and executed root commands
that were validated before. -/
inductive Used (c : Context D) : Context D → Prop
  | notYet : Used c c
  | ran {α : Type} {p : ChainProgram α} {mid last : Context D} {h : List Happening}
    {out : Outcome α} (hbefore : Used c mid) (hrun : Yields (mid.run p) h (out, last)) :
    Used c last
  | executed {command : Object} {mid last : Context D} {h : List Happening}
    {out : Outcome ExecutionOutcome} (hbefore : Used c mid)
    (hrun : Yields (mid.executeValidated command) h (out, last)) : Used c last

/-- The run of a context is one on its frames; the rest of the context stays. -/
theorem ends_of_yields_run {α : Type} {p : ChainProgram α} {h : List Happening} {out : Outcome α}
    (hrun : Yields (c.run p) h (out, c')) : c'.env = c.env ∧
      Ends (p.interpret (perform c.env nestingLimit)) c.frames h out c'.frames := by
  obtain ⟨⟨out', frames⟩, h₁, h₂, hinner, hpure, rfl⟩ := yields_bind.mp hrun
  obtain ⟨rfl, hpair⟩ := yields_pure.mp hpure
  cases hpair
  rw [List.append_nil]
  exact ⟨rfl, hinner⟩

theorem ends_of_yields_executeValidated {command : Object} {h : List Happening}
    {out : Outcome ExecutionOutcome} (hrun : Yields (c.executeValidated command) h (out, c')) :
    c'.env = c.env ∧ Ends (executeRoot c.env (perform c.env nestingLimit) nestingLimit command
      true).run c.frames h out c'.frames := by
  obtain ⟨⟨out', frames⟩, h₁, h₂, hinner, hpure, rfl⟩ := yields_bind.mp hrun
  obtain ⟨rfl, hpair⟩ := yields_pure.mp hpure
  cases hpair
  rw [List.append_nil]
  exact ⟨rfl, hinner⟩

/-- Whatever is done with a context keeps what it was built with, and leaves no chain active. -/
theorem Used.eq_fresh {env : Environment D} (hused : (fresh env).Used c) : c = fresh env := by
  induction hused with
  | notYet => rfl
  | @ran α p mid last h out _ hrun ih =>
    subst ih
    obtain ⟨henv, hends⟩ := ends_of_yields_run hrun
    have hempty := (steady_runProgram (steady_perform _) p hends).1.mpr rfl
    exact eq_fresh_of_empty henv hempty
  | @executed command mid last h out _ hrun ih =>
    subst ih
    obtain ⟨henv, hends⟩ := ends_of_yields_executeValidated hrun
    have hempty := (steady_executeRoot _ command true hends).1.mpr rfl
    exact eq_fresh_of_empty henv hempty

/-- **One chain at a time, and none leaves anything to the next.**  On a stack that is not empty a
root command is refused and nothing happens; this is what a root command meets that is asked for in
the course of a chain.  Otherwise the chain ends exactly once, in the end, and the stack is empty,
whatever is raised.  So whatever its owner did with a context, root commands run on it as on a new
one. -/
theorem chains_independent (env : Environment D) :
    (∀ (n : Nat) (fs : List Frame), fs ≠ [] → ∀ (command : Object) (validated : Bool) h out fs',
      Ends (executeRoot env (perform env n) n command validated).run fs h out fs' ↔
        h = [] ∧ out = .error (EngineError.chainActive : Raise) ∧ fs' = fs) ∧
    (∀ (n : Nat) (command : Object) (validated : Bool) h out fs',
      Ends (executeRoot env (perform env n) n command validated).run [] h out fs' →
        fs' = [] ∧ ∃ chain, h = chain ++ [.mark .ended] ∧ .mark .ended ∉ chain) ∧
    ∀ c, (fresh env).Used c → ∀ command,
      c.run (askingRoot command) = (fresh env).run (askingRoot command) ∧
      c.executeValidated command = (fresh env).executeValidated command := by
  refine ⟨?_, ?_, ?_⟩
  · intro n fs hactive command validated h out fs'
    rw [ends_executeRoot]
    constructor
    · rintro (⟨-, rfl, rfl, rfl⟩ | ⟨_, _, hnil, -⟩)
      · exact ⟨rfl, rfl, rfl⟩
      · exact absurd hnil hactive
    · rintro ⟨rfl, rfl, rfl⟩
      exact .inl ⟨hactive, rfl, rfl, rfl⟩
  · intro n command validated h out fs' hends
    exact ⟨(steady_executeRoot n command validated hends).1.mpr rfl,
      ended_once (steady_perform n) hends⟩
  · intro c hused command
    rw [hused.eq_fresh]
    exact ⟨rfl, rfl⟩

/-! ### After a panic and a dispatch outside -/

section Broken
open Nested (object)
open Alarmed (environment)

/-- Dispatches an alarm and contains what goes wrong. -/
def raisingAlarm : ChainProgram Bool :=
  .ask (.dispatchSafe (object "alarm" 0)) fun returned => .done (.ok returned)

theorem broken_and_alarmed : ∃ h₁ h₂ mid last,
    Yields ((fresh environment).run (askingRoot (object "broken" 0))) h₁
      (.ok (.error (.panic (.text "broken"))), mid) ∧
    Yields (mid.run raisingAlarm) h₂ (.ok false, last) :=
  ⟨_, _, _, _, rfl, rfl⟩

/-- A root command is left by a panic while an event waits on its frame, and then an alarm is
dispatched outside a chain; the same root command runs on what is left as on a new context.  In the
middle of a chain it is refused. -/
theorem chains_independent_broken :
    Ends (executeRoot environment (perform environment 3) 3 (object "broken" 0) false).run
      Alarmed.frames [] (.error (EngineError.chainActive : Raise)) Alarmed.frames ∧
    (∃ h out, Ends (executeRoot environment (perform environment 3) 3 (object "broken" 0)
      false).run [] h out [] ∧ ∃ chain, h = chain ++ [.mark .ended] ∧ .mark .ended ∉ chain) ∧
    ∃ last, (fresh environment).Used last ∧
      last.run (askingRoot (object "broken" 0)) =
        (fresh environment).run (askingRoot (object "broken" 0)) := by
  obtain ⟨hrefused, hended, hnew⟩ := chains_independent environment
  refine ⟨?_, ?_, ?_⟩
  · exact (hrefused 3 Alarmed.frames (by decide) _ false _ _ _).mpr ⟨rfl, rfl, rfl⟩
  · obtain ⟨h, out, hends⟩ : ∃ h out, Ends (executeRoot environment (perform environment 3) 3
        (object "broken" 0) false).run [] h out [] := ⟨_, _, rfl⟩
    exact ⟨h, out, hends, (hended 3 _ false _ _ _ hends).2⟩
  · obtain ⟨h₁, h₂, mid, last, hbroken, halarmed⟩ := broken_and_alarmed
    have hused : (fresh environment).Used last := .ran (.ran .notYet hbroken) halarmed
    exact ⟨last, hused, (hnew last hused (object "broken" 0)).1⟩

end Broken

end Context
end CommandEngine
