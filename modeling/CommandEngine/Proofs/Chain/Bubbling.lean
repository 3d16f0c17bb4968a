import CommandEngine.Proofs.Chain.Operations

/-!
# The events of a root command

When a root command returns, its outcome has exactly the events that survive the marks of the
chain.  Before the final dispatch these wait on the root's frame, which has got the survivors of
everything that ran above it.  The final dispatch walks over a list that grows: after each
dispatch the root's frame is emptied and what was on it is appended, so the list is always the
events walked over and those still to come, and in the end it has the survivors of the dispatches
behind the survivors of the command.
-/
namespace CommandEngine
namespace Chain

variable {D : Type} {env : Environment D} {answer : (q : ContextRequest) → OnStack q.Reply}
  {fs fs' : List Frame} {h : List Happening} {command : Object} {depth : Nat} {ms : List Mark}

/-! ## The final dispatch -/

/-- What waits on the root's frame, begun empty, are the survivors. -/
theorem Returns.root (hreturns : Returns [⟨command, []⟩] ms fs') :
    Balanced 1 ms ∧ rootEvents fs' = survivors 1 ms ∧ emptyRoot fs' = [⟨command, []⟩] := by
  have hconcat : Returns ([] ++ [⟨command, []⟩]) ms fs' := hreturns
  have hframes := hconcat.frames_concat
  refine ⟨hconcat.balanced_concat, ?_, ?_⟩
  · rw [hframes]
    exact List.nil_append _
  · rw [hframes]
    rfl

theorem ends_cons {x : Chain (List Object)} {event : Object} {out : List Object} :
    Ends (do return event :: (← x)).run fs h (.ok out) fs' →
      ∃ rest, Ends x.run fs h (.ok rest) fs' ∧ out = event :: rest := by
  intro hends
  rcases ends_bind_run.mp hends with ⟨e, -, hout⟩ | ⟨rest, mid, h₁, h₂, hx, hpure, rfl⟩
  · cases hout
  · obtain ⟨rfl, hout, rfl⟩ := ends_pure_run.mp hpure
    cases hout
    exact ⟨rest, by rwa [List.append_nil], rfl⟩

/-- The walk over the final events.  The root's frame is empty before and after each of them. -/
theorem finalDispatch_survivors (hregistry : env.registry.PassesPanics env.services)
    (hanswer : Answers answer) {limit : Nat} {events out : List Object}
    (hends : Ends (finalDispatch env answer limit events).run [⟨command, []⟩] h (.ok out) fs') :
    out = events ++ survivors 1 (marks h) ∧ Balanced 1 (marks h) := by
  induction limit generalizing events h out with
  | zero =>
    cases events with
    | nil =>
      obtain ⟨rfl, hout, -⟩ := ends_pure_run.mp hends
      cases hout
      exact ⟨rfl, balanced_nil⟩
    | cons event rest => exact absurd hends not_ends_failure_run
  | succ limit ih =>
    cases events with
    | nil =>
      obtain ⟨rfl, hout, -⟩ := ends_pure_run.mp hends
      cases hout
      exact ⟨rfl, balanced_nil⟩
    | cons event rest =>
      unfold finalDispatch at hends
      split at hends
      · rcases ends_bind_run.mp hends with ⟨e, -, hout⟩ | ⟨_, mid, h₁, h₂, hdispatch, hrest, rfl⟩
        · cases hout
        have hreturns : Returns [⟨command, []⟩] (marks h₁) mid :=
          keeps_dispatch hregistry hanswer event hdispatch
        obtain ⟨hfirst, hevents, hempty⟩ := hreturns.root
        -- the survivors of the dispatch are taken off the frame and appended to the list
        obtain ⟨more, mid', h₃, h₄, htake, hnext, rfl⟩ := ends_frames_bind.mp hrest
        obtain ⟨rfl, rfl, rfl⟩ := ends_takeRootEvents.mp htake
        obtain ⟨walked, hwalk, rfl⟩ := ends_cons hnext
        rw [hevents, hempty] at hwalk
        obtain ⟨rfl, hsecond⟩ := ih hwalk
        rw [List.nil_append, marks_append]
        refine ⟨?_, hfirst.append hsecond⟩
        rw [hfirst.survivors_append hsecond, List.cons_append, List.append_assoc]
      · obtain ⟨walked, hwalk, rfl⟩ := ends_cons hends
        obtain ⟨rfl, hbalanced⟩ := ih hwalk
        exact ⟨rfl, hbalanced⟩

/-! ## The root command -/

theorem runRoot_survivors (hregistry : env.registry.PassesPanics env.services)
    (hanswer : Answers answer) {limit : Nat} {validated : Bool} {outcome : ExecutionOutcome}
    (hends : Ends (runRoot env answer limit command validated).run [] h (.ok outcome) fs') :
    outcome.events = survivors 0 (marks h) := by
  obtain ⟨_, _, _, h₁, hopen, hbody, rfl⟩ := ends_frames_bind.mp hends
  obtain ⟨rfl, -, rfl⟩ := ends_openFrame.mp hopen
  rcases ends_bind_run.mp hbody with ⟨e, -, hout⟩ | ⟨result, mid, h₂, h₃, hraw, hfinal, rfl⟩
  · cases hout
  have hreturns : Returns [⟨command, []⟩] (marks h₂) mid :=
    keeps_rawExecute hregistry hanswer command validated hraw
  obtain ⟨hfirst, hevents, hempty⟩ := hreturns.root
  obtain ⟨_, _, _, h₄, htake, hwalk, rfl⟩ := ends_frames_bind.mp hfinal
  obtain ⟨rfl, rfl, rfl⟩ := ends_takeRootEvents.mp htake
  rcases ends_bind_run.mp hwalk with ⟨e, -, hout⟩ | ⟨walked, mid', h₅, h₆, hdispatch, hpure, rfl⟩
  · cases hout
  obtain ⟨rfl, hout, -⟩ := ends_pure_run.mp hpure
  cases hout
  rw [hevents, hempty] at hdispatch
  obtain ⟨rfl, hsecond⟩ := finalDispatch_survivors hregistry hanswer hdispatch
  show survivors 1 (marks h₂) ++ survivors 1 (marks h₅) = _
  rw [← hfirst.survivors_append hsecond, List.append_nil, List.nil_append, marks_append,
    marks_append]
  exact survivors_opened.symm

/-- The events of a root command that returns are the survivors of its chain. -/
theorem executeRoot_survivors (hregistry : env.registry.PassesPanics env.services)
    (hanswer : Answers answer) {limit : Nat} {validated : Bool} {outcome : ExecutionOutcome}
    (hends : Ends (executeRoot env answer limit command validated).run fs h (.ok outcome) fs') :
    outcome.events = survivors 0 (marks h) := by
  rcases ends_executeRoot.mp hends with ⟨-, -, hout, -⟩ | ⟨h₁, mid, -, hrun, rfl, -⟩
  · cases hout
  · rw [runRoot_survivors hregistry hanswer hrun, marks_append]
    exact (survivors_append_of_keeps rfl rfl).symm

/-- **Exact bubbling.**  When a root command returns, its events are those that were queued while
no frame was on the stack that was later dropped with its events, in the order in which they were
queued, those of the final dispatch included.  This is so for all application code that passes
panics on, and however deep its requests are nested. -/
theorem executeRoot_events (hregistry : env.registry.PassesPanics env.services) {n limit : Nat}
    {validated : Bool} {outcome : ExecutionOutcome}
    (hends : Ends (executeRoot env (perform env n) limit command validated).run fs h (.ok outcome)
      fs') : outcome.events = survivors 0 (marks h) :=
  executeRoot_survivors hregistry (answers_perform hregistry n) hends

/-! ### An event that survives and one that does not -/

namespace Nested

/-- An object of a type. -/
def object (type : String) (number : Int) : Object := .fresh ⟨⟨type, type⟩, false, number, ""⟩

/-- Emits an event, and fails if this fails. -/
def emitting (number : Int) : ChainProgram Unit :=
  .ask (.emit (object "event" number)) fun outcome => .done outcome

/-- Executes a command and handles its failure. -/
def trying (type : String) : ChainProgram Unit :=
  .ask (.execute (object type 0)) fun
    | .error (.panic p) => .done (.error (.panic p))
    | _ => .done (.ok ())

/-- Emits, fails in a nested command, handles the failure and emits again. -/
def outer : ChainProgram CommandResult := do
  emitting 1
  trying "inner"
  emitting 3
  return .void

/-- Emits and fails. -/
def inner : ChainProgram CommandResult := do
  emitting 2
  .raise (.failure (.other "no"))

/-- A command with a handler. -/
def descriptor (type : String) (kind : Kind) (handler : Option (ChainProgram CommandResult)) :
    Descriptor Unit :=
  ⟨0, ⟨type, type⟩, kind, none,
    handler.map fun p => (⟨type, "handle", ⟨type, type⟩, .unit, false⟩, .pooled fun _ _ => p),
    [], [], [], [], handler.isSome⟩

def registry : Registry Unit :=
  .of [descriptor "outer" .command (some outer), descriptor "inner" .command (some inner),
    descriptor "event" .callerOnlyEvent none]

def environment : Environment Unit := .of registry ()

theorem emitting_passesPanics (number : Int) : (emitting number).PassesPanics :=
  .ask (fun _ _ hpanic => congrArg Program.done (Outcome.eq_of_panic? hpanic)) fun _ _ => .done _

theorem trying_passesPanics (type : String) : (trying type).PassesPanics := by
  refine .ask (fun reply p hpanic => ?_) fun reply hpanic => ?_
  · rw [Outcome.eq_of_panic? hpanic]
  · rcases reply with (f | p) | result
    · exact .done _
    · cases hpanic
    · exact .done _

theorem outer_passesPanics : outer.PassesPanics :=
  (emitting_passesPanics 1).bind fun _ => (trying_passesPanics "inner").bind fun _ =>
    (emitting_passesPanics 3).bind fun _ => .done _

theorem inner_passesPanics : inner.PassesPanics :=
  (emitting_passesPanics 2).bind fun _ => .done _

theorem environment_passesPanics : environment.registry.PassesPanics environment.services := by
  have hmem : ∀ d ∈ registry.descriptors, ∃ type kind handler, d = descriptor type kind handler ∧
      ∀ p, handler = some p → p.PassesPanics := by
    intro d hd
    rcases List.mem_cons.mp hd with rfl | hd
    · exact ⟨_, _, _, rfl, fun _ hp => Option.some.inj hp ▸ outer_passesPanics⟩
    rcases List.mem_cons.mp hd with rfl | hd
    · exact ⟨_, _, _, rfl, fun _ hp => Option.some.inj hp ▸ inner_passesPanics⟩
    · exact ⟨_, _, none, List.mem_singleton.mp hd, nofun⟩
  constructor
  · intro d hd signature slot hslot handler hgiven command
    obtain ⟨type, kind, handler?, rfl, hpasses⟩ := hmem d hd
    cases handler? with
    | none => cases hslot
    | some p =>
      cases hslot
      cases hgiven
      exact hpasses p rfl
  · intro d hd slot hslot
    obtain ⟨_, _, _, rfl, -⟩ := hmem d hd
    cases hslot
  · intro d hd slot hslot
    obtain ⟨_, _, _, rfl, -⟩ := hmem d hd
    cases hslot

theorem outer_returns : ∃ h outcome fs',
    Ends (executeRoot environment (perform environment 2) 2 (object "outer" 0) false).run [] h
      (.ok outcome) fs' ∧ outcome.events = [object "event" 1, object "event" 3] :=
  ⟨_, _, _, rfl, rfl⟩

/-- The event of the nested command that failed is gone; those before and after it survive. -/
theorem executeRoot_events_outer : environment.registry.PassesPanics environment.services ∧
    ∃ h outcome fs',
      Ends (executeRoot environment (perform environment 2) 2 (object "outer" 0) false).run [] h
        (.ok outcome) fs' ∧
      survivors 0 (marks h) = [object "event" 1, object "event" 3] := by
  refine ⟨environment_passesPanics, ?_⟩
  obtain ⟨h, outcome, fs', hends, hevents⟩ := outer_returns
  exact ⟨h, outcome, fs', hends, executeRoot_events environment_passesPanics hends ▸ hevents⟩

end Nested

end Chain
end CommandEngine
