import CommandEngine.Proofs.Chain.Frames

/-!
# The dispatches of the final events

The final dispatch walks over a list that grows while it is walked over.  What it does is a row of
dispatches with nothing between them (`Dispatches`): each is begun on the frames that the one before
it left, with the root's frame emptied, and the events that were on that frame stand at the end of
the list from then on.

So the list is known from the row: it is the events that the walk began with, followed by those each
dispatch left on the root's frame.  The row in turn is known from the list: it dispatches the routed
events of the list that are handled, in the order they stand there, and passes over all others
(`finalDispatch_walk`, by induction on the events that may still be walked over).  A walk that ends
in what was raised has stopped at the dispatch that raised it, and the events dispatched so far
begin the row.

Nothing here depends on what the handlers do with panics, or on the depth they run at: requests may
be answered by any function.
-/
namespace CommandEngine
namespace Chain

variable {D : Type} {env : Environment D} {answer : (q : ContextRequest) → OnStack q.Reply}

/-! ## A row of dispatches -/

/-- A dispatch that returned: its event, what happened, and the frames it left. -/
structure Dispatched where
  event : Object
  history : List Happening
  left : List Frame

/-- The events that a dispatch left on the root's frame. -/
def Dispatched.emitted (d : Dispatched) : List Object := rootEvents d.left

/-- The dispatches return one after the other.  After each of them the root's frame is emptied. -/
inductive Dispatches (env : Environment D) (answer : (q : ContextRequest) → OnStack q.Reply) :
    List Frame → List Dispatched → List Frame → Prop where
  | none (fs : List Frame) : Dispatches env answer fs [] fs
  | next {fs fs' : List Frame} {d : Dispatched} {ds : List Dispatched}
    (hdispatch : Ends (dispatch env answer d.event).run fs d.history (.ok ()) d.left)
    (hrest : Dispatches env answer (emptyRoot d.left) ds fs') :
    Dispatches env answer fs (d :: ds) fs'

/-- What happened during the dispatches. -/
def dispatchHistory (ds : List Dispatched) : List Happening := ds.flatMap (·.history)

/-- The list that is walked over: the events it has in the beginning, then those that the dispatches
left. -/
def walked (events : List Object) (ds : List Dispatched) : List Object :=
  events ++ ds.flatMap (·.emitted)

theorem walked_nil {events : List Object} : walked events [] = events := List.append_nil _

theorem walked_cons {d : Dispatched} {event : Object} {rest : List Object} {ds : List Dispatched} :
    walked (event :: rest) (d :: ds) = event :: walked (rest ++ d.emitted) ds := by
  simp only [walked, List.flatMap_cons, List.cons_append, List.append_assoc]

/-- The walk over the final events, from its beginning. -/
inductive Walk (env : Environment D) (answer : (q : ContextRequest) → OnStack q.Reply)
    (events : List Object) (fs : List Frame) :
    List Happening → Outcome (List Object) → List Frame → Prop where
  /-- All dispatches returned.  They were those of the routed and handled events of the list. -/
  | complete {ds : List Dispatched} {fs' : List Frame} (hds : Dispatches env answer fs ds fs')
    (hevents : ds.map (·.event) = (walked events ds).filter (isRoutedAndHandled env)) :
    Walk env answer events fs (dispatchHistory ds) (.ok (walked events ds)) fs'
  /-- The dispatch of one of these events raised something, and the rest is not dispatched. -/
  | stopped {ds : List Dispatched} {mid fs' : List Frame} {event : Object} {h : List Happening}
    {e : Raise} (hds : Dispatches env answer fs ds mid)
    (hlast : Ends (dispatch env answer event).run mid h (.error e) fs')
    (hevents : ds.map (·.event) ++ [event] <+:
      (walked events ds).filter (isRoutedAndHandled env)) :
    Walk env answer events fs (dispatchHistory ds ++ h) (.error e) fs'

section Walk
variable {fs fs' : List Frame} {h : List Happening} {event : Object} {rest : List Object}
  {out : Outcome (List Object)}

/-- An event that is not routed, or not handled, is passed over. -/
theorem Walk.skip (hskip : isRoutedAndHandled env event = false)
    (hwalk : Walk env answer rest fs h out fs') :
    Walk env answer (event :: rest) fs h (out.map (event :: ·)) fs' := by
  have hfilter (ds : List Dispatched) :
      (walked (event :: rest) ds).filter (isRoutedAndHandled env) =
        (walked rest ds).filter (isRoutedAndHandled env) :=
    List.filter_cons_of_neg (Bool.eq_false_iff.mp hskip)
  cases hwalk with
  | complete hds hevents => exact .complete hds (hevents.trans (hfilter _).symm)
  | stopped hds hlast hevents => exact .stopped hds hlast (hfilter _ ▸ hevents)

/-- The walk goes on with what the dispatch left at the end of the list. -/
theorem Walk.dispatch {d : Dispatched} (hroute : isRoutedAndHandled env d.event = true)
    (hdispatch : Ends (dispatch env answer d.event).run fs d.history (.ok ()) d.left)
    (hwalk : Walk env answer (rest ++ d.emitted) (emptyRoot d.left) h out fs') :
    Walk env answer (d.event :: rest) fs (d.history ++ h) (out.map (d.event :: ·)) fs' := by
  have hfilter (ds : List Dispatched) :
      (walked (d.event :: rest) (d :: ds)).filter (isRoutedAndHandled env) =
        d.event :: (walked (rest ++ d.emitted) ds).filter (isRoutedAndHandled env) := by
    rw [walked_cons, List.filter_cons_of_pos hroute]
  cases hwalk with
  | @complete ds _ hds hevents =>
    have hall := Walk.complete (.next hdispatch hds)
      ((congrArg (d.event :: ·) hevents).trans (hfilter ds).symm)
    rwa [walked_cons] at hall
  | @stopped ds _ _ event h e hds hlast hevents =>
    rw [← List.append_assoc]
    refine .stopped (.next hdispatch hds) hlast ?_
    rw [hfilter]
    exact List.cons_prefix_cons.mpr ⟨rfl, hevents⟩

/-- **The walk over the final events.** -/
theorem finalDispatch_walk {limit : Nat} {events : List Object}
    (hends : Ends (finalDispatch env answer limit events).run fs h out fs') :
    Walk env answer events fs h out fs' := by
  induction limit generalizing events fs h out with
  | zero =>
    cases events with
    | nil =>
      obtain ⟨rfl, rfl, rfl⟩ := ends_pure_run.mp hends
      exact .complete (.none _) rfl
    | cons event rest => exact absurd hends not_ends_failure_run
  | succ limit ih =>
    cases events with
    | nil =>
      obtain ⟨rfl, rfl, rfl⟩ := ends_pure_run.mp hends
      exact .complete (.none _) rfl
    | cons event rest =>
      unfold finalDispatch at hends
      by_cases hroute : isRoutedAndHandled env event = true
      · rw [if_pos hroute] at hends
        rcases ends_bind_run.mp hends with ⟨e, hlast, rfl⟩ | ⟨_, mid, h₁, h₂, hdispatch, hrest, rfl⟩
        · refine .stopped (.none fs) hlast ?_
          rw [walked_nil, List.filter_cons_of_pos hroute]
          exact List.cons_prefix_cons.mpr ⟨rfl, List.nil_prefix⟩
        · obtain ⟨more, mid', h₃, h₄, htake, hnext, rfl⟩ := ends_frames_bind.mp hrest
          obtain ⟨rfl, rfl, rfl⟩ := ends_takeRootEvents.mp htake
          obtain ⟨tail, htail, rfl⟩ := ends_bind_pure.mp hnext
          exact Walk.dispatch (d := ⟨event, h₁, mid⟩) hroute hdispatch (ih htail)
      · rw [if_neg hroute] at hends
        obtain ⟨tail, htail, rfl⟩ := ends_bind_pure.mp hends
        exact (ih htail).skip (Bool.eq_false_iff.mpr hroute)

end Walk

/-! ## The root command -/

section Root
variable {limit : Nat} {command : Object} {validated : Bool} {fs fs' : List Frame}
  {h : List Happening} {out : Outcome ExecutionOutcome}

/-- A root command that is not refused is executed on its own frame, and if that returns, the final
dispatch begins with what waits on this frame. -/
theorem ends_executeRoot_parts
    (hends : Ends (executeRoot env answer limit command validated).run fs h out fs') :
    (fs ≠ [] ∧ h = [] ∧ out = .error (EngineError.chainActive : Raise)) ∨
    ∃ h₁ raw mid, fs = [] ∧
      Ends (rawExecute env answer command validated).run [⟨command, []⟩] h₁ raw mid ∧
      match raw with
      | .error e => out = .error e ∧ h = .mark (.opened command) :: h₁ ++ [.mark .ended]
      | .ok result => ∃ h₂ events left,
        Ends (finalDispatch env answer limit (rootEvents mid)).run (emptyRoot mid) h₂ events left ∧
        out = events.map (ExecutionOutcome.mk result) ∧
        h = .mark (.opened command) :: (h₁ ++ h₂) ++ [.mark .ended] := by
  rcases ends_executeRoot.mp hends with ⟨hactive, rfl, rfl, -⟩ | ⟨h₀, last, rfl, hrun, rfl, -⟩
  · exact .inl ⟨hactive, rfl, rfl⟩
  right
  obtain ⟨_, _, _, h₃, hopen, hbody, rfl⟩ := ends_frames_bind.mp hrun
  obtain ⟨rfl, -, rfl⟩ := ends_openFrame.mp hopen
  rcases ends_bind_run.mp hbody with ⟨e, hraw, rfl⟩ | ⟨result, mid, h₁, h₄, hraw, hfinal, rfl⟩
  · exact ⟨h₃, .error e, last, rfl, hraw, rfl, rfl⟩
  · obtain ⟨_, _, _, h₅, htake, hdispatches, rfl⟩ := ends_frames_bind.mp hfinal
    obtain ⟨rfl, rfl, rfl⟩ := ends_takeRootEvents.mp htake
    refine ⟨h₁, .ok result, mid, rfl, hraw, ?_⟩
    rcases ends_bind_run.mp hdispatches with ⟨e, hwalk, rfl⟩ | ⟨events, _, h₂, _, hwalk, hpure, rfl⟩
    · exact ⟨_, .error e, last, hwalk, rfl, rfl⟩
    · obtain ⟨rfl, rfl, rfl⟩ := ends_pure_run.mp hpure
      refine ⟨h₂, .ok events, last, hwalk, rfl, ?_⟩
      rw [List.append_nil]
      rfl

/-- **Every final event is dispatched once and in order.**  A root command that is not refused runs
its handler and its post-handlers first.  When these return, the final events are walked over, from
those that wait on the root's frame; the result has the events of the list in the end, and what the
walk raises is what the root command raises. -/
theorem executeRoot_finalEvents {n : Nat}
    (hends : Ends (executeRoot env (perform env n) limit command validated).run fs h out fs') :
    (fs ≠ [] ∧ h = [] ∧ out = .error (EngineError.chainActive : Raise)) ∨
    ∃ h₁ raw mid, fs = [] ∧
      Ends (rawExecute env (perform env n) command validated).run [⟨command, []⟩] h₁ raw mid ∧
      match raw with
      | .error e => out = .error e ∧ h = .mark (.opened command) :: h₁ ++ [.mark .ended]
      | .ok result => ∃ h₂ events left,
        Walk env (perform env n) (rootEvents mid) (emptyRoot mid) h₂ events left ∧
        out = events.map (ExecutionOutcome.mk result) ∧
        h = .mark (.opened command) :: (h₁ ++ h₂) ++ [.mark .ended] := by
  rcases ends_executeRoot_parts hends with hactive | ⟨h₁, raw, mid, rfl, hraw, hrest⟩
  · exact .inl hactive
  · refine .inr ⟨h₁, raw, mid, rfl, hraw, ?_⟩
    cases raw with
    | error e => exact hrest
    | ok result =>
      obtain ⟨h₂, events, left, hwalk, hout, hh⟩ := hrest
      exact ⟨h₂, events, left, finalDispatch_walk hwalk, hout, hh⟩

end Root

/-! ### News with an echo -/

namespace Relayed

open Nested Alarmed

/-- Emits an event of a type, and fails if this fails. -/
def sending (type : String) (number : Int) : ChainProgram Unit :=
  .ask (.emit (object type number)) fun outcome => .done outcome

/-- Spreads news and leaves an event for the caller. -/
def announcing : ChainProgram CommandResult := do
  sending "news" 1
  sending "event" 2
  sending "news" 3
  return .void

/-- Whoever hears news sends an echo, which is heard as well. -/
def environment : Environment Unit :=
  .of (.of [descriptor "announce" .command (some announcing), descriptor "event" .callerOnlyEvent none,
    reaction "news" [sending "echo" 4], reaction "echo" [sending "event" 5]]) ()

def dispatched : List Object :=
  [object "news" 1, object "news" 3, object "echo" 4, object "echo" 4]

theorem announce_returns : ∃ h outcome fs',
    Ends (executeRoot environment (perform environment 3) 9 (object "announce" 0) false).run [] h
      (.ok outcome) fs' ∧
    outcome.events = [object "news" 1, object "event" 2, object "news" 3, object "echo" 4,
      object "echo" 4, object "event" 5, object "event" 5] ∧
    outcome.events.filter (isRoutedAndHandled environment) = dispatched :=
  ⟨_, _, _, rfl, rfl, rfl⟩

/-- Both echoes were emitted by handlers of final events, and are dispatched behind them; the events
for the caller are not. -/
theorem executeRoot_finalEvents_announce : ∃ h outcome fs' h₁ mid ds left,
    Ends (executeRoot environment (perform environment 3) 9 (object "announce" 0) false).run [] h
      (.ok outcome) fs' ∧
    Dispatches environment (perform environment 3) mid ds left ∧
    ds.map (·.event) = dispatched ∧
    h = .mark (.opened (object "announce" 0)) :: (h₁ ++ dispatchHistory ds) ++ [.mark .ended] := by
  obtain ⟨h, outcome, fs', hends, -, hdispatched⟩ := announce_returns
  rcases executeRoot_finalEvents hends with ⟨hactive, -⟩ | ⟨h₁, raw, mid, -, -, hraw⟩
  · exact absurd rfl hactive
  cases raw with
  | error e => cases hraw.1
  | ok result =>
    obtain ⟨h₂, events, left, hwalk, hout, rfl⟩ := hraw
    cases hwalk with
    | stopped => cases hout
    | @complete ds left hds hevents =>
      cases hout
      exact ⟨_, _, fs', h₁, _, ds, left, hends, hds, hevents.trans hdispatched, rfl⟩

end Relayed
end Chain
end CommandEngine
