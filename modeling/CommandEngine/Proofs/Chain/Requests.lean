import CommandEngine.Proofs.Chain.Congruence
import CommandEngine.Proofs.Chain.Frames

/-!
# The requests of a run

The history of a run does not tell of every request that was made, and not of the frames it was
made on.  What tells of them is what becomes of the run when requests are left without an answer.
Where only the requests of a set are answered (`allowing`), a run that makes another one has no
result, and all other runs are as before.  So to say that a run makes no requests but these is to
say that it is still a run.  `performAllowing` leaves requests without an answer at every depth of
nesting.

The first use of this is to say on which frames programs make their requests (`OwnFrames`).  A
program that passes panics on goes on with its own frames after each request that it goes on after.
So the handler and the post-handlers of a command make their requests with the frame of the command
on top, event handlers make theirs on the frames that the dispatch was begun on, and for the final
events this is the frame of the root command, alone on the stack.  What carries the argument through
a sequence is that the part before returned, and left frames of the same commands.
-/
namespace CommandEngine
namespace Chain

variable {D : Type} {env : Environment D} {answer : (q : ContextRequest) → OnStack q.Reply}

/-! ## Requests without an answer -/

/-- Answers the requests of a set, and no others. -/
def allowing (made : ContextRequest → List Frame → Bool)
    (answer : (q : ContextRequest) → OnStack q.Reply) (q : ContextRequest) : OnStack q.Reply := do
  if made q (← get) then answer q else liftM (failure : Run q.Reply)

/-- Answers the requests of programs nested at most `n` deep, as far as they are in a set. -/
def performAllowing (env : Environment D) (made : ContextRequest → List Frame → Bool) :
    (n : Nat) → (q : ContextRequest) → OnStack q.Reply
  | 0, q => liftM (failure : Run q.Reply)
  | n + 1, q => allowing made (serve env (performAllowing env made n) n) q

section Allowing
variable {made : ContextRequest → List Frame → Bool} {fs fs' : List Frame} {h : List Happening}

theorem ends_allowing {q : ContextRequest} {reply : q.Reply} :
    Ends (allowing made answer q) fs h reply fs' ↔
      made q fs = true ∧ Ends (answer q) fs h reply fs' := by
  rw [allowing, ends_frames]
  by_cases hmade : made q fs = true
  · rw [if_pos hmade, and_iff_right hmade]
  · rw [if_neg hmade]
    exact ⟨fun hends => absurd hends not_ends_failure, fun hends => absurd hends.1 hmade⟩

theorem below_allowing (q : ContextRequest) : Below (allowing made answer q) (answer q) :=
  fun _ _ _ _ hends => (ends_allowing.mp hends).2

/-- When every request may be made, every request is answered. -/
theorem performAllowing_true (env : Environment D) (n : Nat) :
    performAllowing env (fun _ _ => true) n = perform env n := by
  induction n with
  | zero => rfl
  | succ n ih =>
    funext q
    rw [performAllowing, ih]
    rfl

/-- A run whose requests are in a set is a run. -/
theorem below_performAllowing (env : Environment D) (made : ContextRequest → List Frame → Bool)
    (n : Nat) (q : ContextRequest) : Below (performAllowing env made n q) (perform env n q) := by
  have hbelow := Below.congruence env
  induction n generalizing q with
  | zero => exact .refl _
  | succ n ih =>
    have hserve := respects_serve hbelow.toStepwise ih (Nat.le_refl n)
      (respects_dispatchSafe hbelow ih)
    exact fun _ _ _ _ hends => hserve q (below_allowing q hends)

theorem below_executeRoot_allowing (env : Environment D)
    (made : ContextRequest → List Frame → Bool) (n limit : Nat) (command : Object)
    (validated : Bool) :
    Below (executeRoot env (performAllowing env made n) limit command validated).run
      (executeRoot env (perform env n) limit command validated).run :=
  respects_executeRoot (Below.congruence env).toStepwise (below_performAllowing env made n)
    (Nat.le_refl limit) command validated

end Allowing

/-! ## Requests on one's own frames -/

/-- The requests made on frames of given commands. -/
def onFramesOf (commands : List Object) (_ : ContextRequest) (fs : List Frame) : Bool :=
  fs.map (·.command) == commands

/-- Begun on frames of given commands, `x` makes a passage over them, and `y` runs as `x` does. -/
def Sits (commands : List Object) {α : Type} (x y : Chain α) : Prop :=
  ∀ ⦃fs h out fs'⦄, fs.map (·.command) = commands → Ends x.run fs h out fs' →
    Passage (Outcome.panic? out).isSome fs (marks h) fs' ∧ Ends y.run fs h out fs'

section Sits
variable {commands : List Object} {α β : Type}

theorem sits_of_keeps {x : Chain α} (hx : Keeps x) : Sits commands x x :=
  fun _ _ _ _ _ hends => ⟨hx hends, hends⟩

/-- What comes after a part that returned begins on frames of the same commands. -/
theorem Sits.bind {x y : Chain α} {f g : α → Chain β} (hxy : Sits commands x y)
    (hfg : ∀ {fs h a fs'}, Ends x.run fs h (.ok a) fs' → Sits commands (f a) (g a)) :
    Sits commands (x >>= f) (y >>= g) := by
  intro fs h out fs' hfs hends
  rcases ends_bind_run.mp hends with ⟨e, hfirst, rfl⟩ | ⟨a, mid, h₁, h₂, hfirst, hrest, rfl⟩
  · obtain ⟨hpassage, hfirst'⟩ := hxy hfs hfirst
    refine ⟨?_, ends_bind_run.mpr (.inl ⟨e, hfirst', rfl⟩)⟩
    cases e with
    | failure f => exact hpassage
    | panic p => exact hpassage
  · obtain ⟨hpassage, hfirst'⟩ := hxy hfs hfirst
    have hreturns : Returns fs (marks h₁) mid := hpassage
    have hmid : mid.map (·.command) = commands := hreturns.continues.commands.trans hfs
    obtain ⟨hlater, hrest'⟩ := hfg hfirst hmid hrest
    refine ⟨?_, ends_bind_run.mpr (.inr ⟨a, mid, h₁, h₂, hfirst', hrest', rfl⟩)⟩
    rw [marks_append]
    exact hreturns.passage hlater

theorem sits_mark {m : Mark} (hm : m.isQuiet) :
    Sits commands (liftM (Account.mark m) : Chain Unit) (liftM (Account.mark m)) :=
  sits_of_keeps (keeps_compositional.quiet (Account.leaves_mark hm))

theorem sits_throw (e : Raise) : Sits commands (throw e : Chain α) (throw e) :=
  sits_of_keeps (keeps_compositional.throw e)

/-- A service that is obtained is one that its slot gives. -/
theorem sits_resolve {T : Type} {slot : Slot D T} {Q : T → Prop} {f g : T → Chain α}
    (hslot : slot.All env.services Q)
    (hfg : ∀ service, Q service → Sits commands (f service) (g service)) :
    Sits commands (act (slot.resolve env.services) >>= f) (act (slot.resolve env.services) >>= g) :=
  (sits_of_keeps (keeps_compositional.act _)).bind fun hends =>
    hfg _ (hslot _ (ends_act.mp hends).2.1.symm)

/-- A check that throws when it fails. -/
theorem sits_check {c : Prop} [Decidable c] {e : Raise} {x y : Unit → Chain α}
    (hxy : Sits commands (x ()) (y ())) :
    Sits commands (if c then x () else throw e >>= x) (if c then y () else throw e >>= y) := by
  by_cases hc : c
  · rw [if_pos hc, if_pos hc]
    exact hxy
  · rw [if_neg hc, if_neg hc]
    exact (sits_throw e).bind fun _ => hxy

end Sits

section Programs
variable {commands : List Object} (hanswer : Answers answer)
include hanswer

/-- A program that goes on after a request goes on with its own frames. -/
theorem sits_runProgram {α : Type} {p : ChainProgram α} (hp : p.PassesPanics) :
    Sits commands (runProgram answer p)
      (runProgram (allowing (onFramesOf commands) answer) p) := by
  intro fs h out fs' hfs hends
  refine ⟨keeps_runProgram hanswer hp hends, ?_⟩
  induction hp generalizing fs h with
  | done outcome => exact hends
  | @ask request next stops goesOn ih =>
    obtain ⟨reply, mid, h₁, h₂, hreply, hrest, rfl⟩ := ends_bind.mp hends
    have hown : onFramesOf commands request fs = true := beq_iff_eq.mpr hfs
    refine ends_bind.mpr ⟨reply, mid, h₁, h₂, ends_allowing.mpr ⟨hown, hreply⟩, ?_, rfl⟩
    have hpassage := hanswer hreply
    cases hpanic : request.panic? reply with
    | none =>
      rw [hpanic] at hpassage
      have hreturns : Returns fs (marks h₁) mid := hpassage
      exact ih reply hpanic (hreturns.continues.commands.trans hfs) hrest
    | some p =>
      -- the program is done, and its frames do not matter any more
      rw [stops reply p hpanic] at hrest ⊢
      exact hrest

theorem sits_callEventHandlers {event : Object} {slots : List (Slot D (EventHandler D) × Nat)}
    (hslots : ∀ slot ∈ slots, slot.1.All env.services fun handler =>
      ∀ event, (handler env.services event).PassesPanics) :
    Sits commands (callEventHandlers env answer event slots)
      (callEventHandlers env (allowing (onFramesOf commands) answer) event slots) := by
  induction slots with
  | nil => exact sits_of_keeps (keeps_compositional.pure ())
  | cons slot rest ih =>
    rw [List.forall_mem_cons] at hslots
    refine sits_resolve hslots.1 fun handler hhandler => ?_
    refine (sits_mark rfl).bind fun _ => ?_
    exact (sits_runProgram hanswer (hhandler event)).bind fun _ => ih hslots.2

theorem sits_callPostHandlers {command : Object} {result : CommandResult}
    {slots : List (Slot D (PostHandler D) × Nat)}
    (hslots : ∀ slot ∈ slots, slot.1.All env.services fun post =>
      ∀ command result, (post env.services command result).PassesPanics) :
    Sits commands (callPostHandlers env answer command result slots)
      (callPostHandlers env (allowing (onFramesOf commands) answer) command result slots) := by
  induction slots with
  | nil => exact sits_of_keeps (keeps_compositional.pure ())
  | cons slot rest ih =>
    rw [List.forall_mem_cons] at hslots
    refine sits_resolve hslots.1 fun post hpost => ?_
    refine (sits_mark rfl).bind fun _ => ?_
    exact (sits_runProgram hanswer (hpost command result)).bind fun _ => ih hslots.2

end Programs

/-! ## Operations on their own frames -/

section Operations
variable {commands : List Object} (hregistry : env.registry.PassesPanics env.services)
  (hanswer : Answers answer)
include hregistry hanswer

theorem sits_dispatch (event : Object) : Sits commands (dispatch env answer event)
    (dispatch env (allowing (onFramesOf commands) answer) event) := by
  refine (sits_of_keeps (keeps_compositional.require event)).bind fun hrequire => sits_check ?_
  refine (sits_mark rfl).bind fun _ => sits_callEventHandlers hanswer fun slot hslot => ?_
  exact hregistry.eventHandlers _ (Compositional.mem_of_require hrequire) _
    (List.fst_mem_of_mem_zipIdx hslot)

theorem sits_rawExecute (command : Object) (validated : Bool) :
    Sits commands (rawExecute env answer command validated)
      (rawExecute env (allowing (onFramesOf commands) answer) command validated) := by
  refine (sits_of_keeps (keeps_compositional.require command)).bind fun {_ _ d _} hrequire => ?_
  refine sits_check ?_
  have hmem := Compositional.mem_of_require hrequire
  cases hhandler : d.handler with
  | none => exact sits_throw _
  | some elected =>
    have hhandle : Sits commands (do
        let handler ← act (elected.2.resolve env.services)
        Account.mark (.handler command)
        let result ← runProgram answer (handler env.services command)
        callPostHandlers env answer command result d.postHandlers.zipIdx
        return result) (do
        let handler ← act (elected.2.resolve env.services)
        Account.mark (.handler command)
        let result ← runProgram (allowing (onFramesOf commands) answer)
          (handler env.services command)
        callPostHandlers env (allowing (onFramesOf commands) answer) command result
          d.postHandlers.zipIdx
        return result) := by
      refine sits_resolve (hregistry.handlers d hmem elected.1 _ hhandler) fun handler hgood => ?_
      refine (sits_mark rfl).bind fun _ => ?_
      refine (sits_runProgram hanswer (hgood command)).bind fun _ => ?_
      refine (sits_callPostHandlers hanswer fun slot hslot => ?_).bind fun _ =>
        sits_of_keeps (keeps_compositional.pure _)
      exact hregistry.postHandlers d hmem _ (List.fst_mem_of_mem_zipIdx hslot)
    cases validated with
    | true => exact hhandle
    | false =>
      exact (sits_of_keeps (keeps_compositional.validate command _)).bind fun _ => hhandle

/-- The walk over the final events.  The root's frame is emptied after each of them, but stays. -/
theorem finalDispatch_onRoot {command : Object} {limit : Nat} {events : List Object}
    {h : List Happening} {out : Outcome (List Object)} {fs' : List Frame}
    (hends : Ends (finalDispatch env answer limit events).run [⟨command, []⟩] h out fs') :
    Ends (finalDispatch env (allowing (onFramesOf [command]) answer) limit events).run
      [⟨command, []⟩] h out fs' := by
  induction limit generalizing events h out with
  | zero =>
    cases events with
    | nil => exact hends
    | cons event rest => exact absurd hends not_ends_failure_run
  | succ limit ih =>
    cases events with
    | nil => exact hends
    | cons event rest =>
      unfold finalDispatch at hends ⊢
      by_cases hroute : isRoutedAndHandled env event = true
      · rw [if_pos hroute] at hends ⊢
        rcases ends_bind_run.mp hends with ⟨e, hlast, rfl⟩ | ⟨_, mid, h₁, h₂, hdispatch, hrest, rfl⟩
        · have hlast' := (sits_dispatch hregistry hanswer event rfl hlast).2
          exact ends_bind_run.mpr (.inl ⟨e, hlast', rfl⟩)
        · obtain ⟨hpassage, hdispatch'⟩ := sits_dispatch hregistry hanswer event rfl hdispatch
          have hreturns : Returns [⟨command, []⟩] (marks h₁) mid := hpassage
          refine ends_bind_run.mpr (.inr ⟨(), mid, h₁, h₂, hdispatch', ?_, rfl⟩)
          obtain ⟨more, mid', h₃, h₄, htake, hnext, rfl⟩ := ends_frames_bind.mp hrest
          refine ends_frames_bind.mpr ⟨more, mid', h₃, h₄, htake, ?_, rfl⟩
          obtain ⟨tail, htail, rfl⟩ := ends_bind_pure.mp hnext
          obtain ⟨-, -, rfl⟩ := ends_takeRootEvents.mp htake
          rw [hreturns.root.2.2] at htail
          rw [hreturns.root.2.2]
          exact ends_bind_pure.mpr ⟨tail, ih htail, rfl⟩
      · rw [if_neg hroute] at hends ⊢
        obtain ⟨tail, htail, rfl⟩ := ends_bind_pure.mp hends
        exact ends_bind_pure.mpr ⟨tail, ih htail, rfl⟩

/-- A root command, from its handler to the handlers of its final events. -/
theorem executeRoot_onRoot {command : Object} {validated : Bool} {limit : Nat}
    {h : List Happening} {out : Outcome ExecutionOutcome} {fs' : List Frame}
    (hends : Ends (executeRoot env answer limit command validated).run [] h out fs') :
    Ends (executeRoot env (allowing (onFramesOf [command]) answer) limit command validated).run
      [] h out fs' := by
  rcases ends_executeRoot.mp hends with ⟨hactive, -⟩ | ⟨h₀, last, -, hrun, rfl, rfl⟩
  · exact absurd rfl hactive
  refine ends_executeRoot.mpr (.inr ⟨h₀, last, rfl, ?_, rfl, rfl⟩)
  obtain ⟨_, _, h₁, h₂, hopen, hbody, rfl⟩ := ends_frames_bind.mp hrun
  refine ends_frames_bind.mpr ⟨_, _, h₁, h₂, hopen, ?_, rfl⟩
  obtain ⟨-, -, rfl⟩ := ends_openFrame.mp hopen
  rcases ends_bind_run.mp hbody with ⟨e, hraw, rfl⟩ | ⟨result, mid, h₃, h₄, hraw, hfinal, rfl⟩
  · have hraw' := (sits_rawExecute hregistry hanswer command validated rfl hraw).2
    exact ends_bind_run.mpr (.inl ⟨e, hraw', rfl⟩)
  · obtain ⟨hpassage, hraw'⟩ := sits_rawExecute hregistry hanswer command validated rfl hraw
    have hreturns : Returns [⟨command, []⟩] (marks h₃) mid := hpassage
    refine ends_bind_run.mpr (.inr ⟨result, mid, h₃, h₄, hraw', ?_, rfl⟩)
    obtain ⟨events, _, h₅, h₆, htake, hwalk, rfl⟩ := ends_frames_bind.mp hfinal
    refine ends_frames_bind.mpr ⟨events, _, h₅, h₆, htake, ?_, rfl⟩
    obtain ⟨-, -, rfl⟩ := ends_takeRootEvents.mp htake
    obtain ⟨walked, hdispatch, rfl⟩ := ends_bind_pure.mp hwalk
    rw [hreturns.root.2.2] at hdispatch ⊢
    exact ends_bind_pure.mpr ⟨walked, finalDispatch_onRoot hregistry hanswer hdispatch, rfl⟩

/-- A nested command has a frame of its own. -/
theorem executeNested_onOwn {command : Object} {stop giveEvents : Bool} {fs fs' : List Frame}
    {h : List Happening} {out : Outcome (CommandResult × List Object)}
    (hends : Ends (executeNested env answer command stop giveEvents).run fs h out fs') :
    Ends (executeNested env (allowing (onFramesOf (fs.map (·.command) ++ [command])) answer) command
      stop giveEvents).run fs h out fs' := by
  unfold executeNested at hends ⊢
  rw [ends_get_bind] at hends ⊢
  dsimp only at hends ⊢
  by_cases hdepth : fs.length = 0
  · rw [if_pos hdepth] at hends ⊢
    exact ends_throw_bind.mpr (ends_throw_bind.mp hends)
  · rw [if_neg hdepth] at hends ⊢
    obtain ⟨_, _, h₁, h₂, hopen, hattempt, rfl⟩ := ends_frames_bind.mp hends
    refine ends_frames_bind.mpr ⟨_, _, h₁, h₂, hopen, ?_, rfl⟩
    obtain ⟨-, -, rfl⟩ := ends_openFrame.mp hopen
    obtain ⟨inner, mid, h₃, h₄, hraw, hclose, rfl⟩ := ends_attempt_bind.mp hattempt
    refine ends_attempt_bind.mpr ⟨inner, mid, h₃, h₄, ?_, hclose, rfl⟩
    have hcommands : (fs ++ [Frame.mk command []]).map (·.command) =
        fs.map (·.command) ++ [command] := List.map_append
    exact (sits_rawExecute hregistry hanswer command false hcommands hraw).2

end Operations

/-- **Programs make their requests on their own frames.**  What an operation runs itself makes all
its requests on the frames of the operation: the programs of a root command on the frame of the root
alone, those of a nested command on its frame above the ones of its callers, and event handlers on
the frames that the dispatch was begun on. -/
structure OwnFrames (env : Environment D) (answer : (q : ContextRequest) → OnStack q.Reply) :
    Prop where
  /-- These are the handler, the post-handlers and the handlers of the final events. -/
  root : ∀ {command validated limit h out fs'},
    Ends (executeRoot env answer limit command validated).run [] h out fs' →
      Ends (executeRoot env (allowing (onFramesOf [command]) answer) limit command validated).run
        [] h out fs'
  nested : ∀ {command stop giveEvents fs h out fs'},
    Ends (executeNested env answer command stop giveEvents).run fs h out fs' →
      Ends (executeNested env (allowing (onFramesOf (fs.map (·.command) ++ [command])) answer)
        command stop giveEvents).run fs h out fs'
  dispatch : ∀ {event fs h out fs'}, Ends (dispatch env answer event).run fs h out fs' →
    Ends (Chain.dispatch env (allowing (onFramesOf (fs.map (·.command))) answer) event).run
      fs h out fs'

/-- This is so at every depth of nesting, if application code passes panics on. -/
theorem ownFrames_perform (hregistry : env.registry.PassesPanics env.services) (n : Nat) :
    OwnFrames env (perform env n) where
  root hends := executeRoot_onRoot hregistry (answers_perform hregistry n) hends
  nested hends := executeNested_onOwn hregistry (answers_perform hregistry n) hends
  dispatch hends := (sits_dispatch hregistry (answers_perform hregistry n) _ rfl hends).2

end Chain
end CommandEngine
