import CommandEngine.Proofs.Chain.Bubbling
import CommandEngine.Proofs.Chain.Callers

/-!
# Three ways to execute a nested command

A nested command can be executed for its result, for its result and its events, and for these with
the events kept from the calling frame.  The three do the same thing: they execute the command on a
frame of its own, and nothing in that execution depends on what will be done with its events.  They
part when the frame is closed (`Closes`), and then only over the events that are on it.

So one execution is at the bottom of all three, and what is left is to follow each of them from its
end (`executeNested_of_rawExecute`).  The frames of the caller are what they were at the call,
whatever the command ran, failed in or panicked in (`extending_rawExecute`).  The events that one
variant appends to them are therefore those that another one gives back, and where nothing is
appended they are as they were.
-/
namespace CommandEngine
namespace Chain

variable {D : Type} {env : Environment D} {answer : (q : ContextRequest) → OnStack q.Reply}
  {fs mid fs' : List Frame} {command : Object} {stop giveEvents : Bool} {inner : Outcome CommandResult}
  {body closing : List Happening} {out : Outcome (CommandResult × List Object)}

/-- The execution of a command on a frame of its own, and how that frame is closed, are the
execution of a nested command. -/
theorem executeNested_of_rawExecute (hne : fs ≠ []) (hkept : mid.take fs.length = fs)
    (hraw : Ends (rawExecute env answer command false).run (fs ++ [⟨command, []⟩]) body inner mid)
    (hclose : Closes stop giveEvents fs.length mid inner closing out fs') :
    Ends (executeNested env answer command stop giveEvents).run fs
      (.mark (.opened command) :: (body ++ closing)) out fs' := by
  have hdepth : ¬ fs.length = 0 := fun hzero => hne (List.length_eq_zero_iff.mp hzero)
  unfold executeNested
  rw [ends_get_bind]
  dsimp only
  rw [if_neg hdepth]
  refine ends_frames_bind.mpr ⟨(), _, _, _, ends_openFrame.mpr ⟨rfl, rfl, rfl⟩, ?_, rfl⟩
  refine ends_attempt_bind.mpr ⟨inner, mid, body, closing, hraw, ?_, rfl⟩
  cases hclose with
  | panicked p => exact ends_throw_run.mpr ⟨rfl, rfl, rfl⟩
  | failed f =>
    exact ends_modify_bind.mpr (ends_mark_bind.mpr ⟨[], ends_throw_run.mpr ⟨rfl, rfl, rfl⟩, rfl⟩)
  | withheld result hstop =>
    rw [ends_get_bind, ends_modify_bind, if_pos hstop]
    exact ends_mark_bind.mpr ⟨[], ends_pure_run.mpr ⟨rfl, rfl, rfl⟩, rfl⟩
  | orphaned _ _ hempty => exact absurd (hkept.symm.trans hempty) hne
  | joined result hstop =>
    rw [ends_get_bind, ends_modify_bind, if_neg hstop, ends_get_bind,
      if_neg (by rwa [List.isEmpty_iff, hkept])]
    exact ends_modify_bind.mpr
      (ends_mark_bind.mpr ⟨[], ends_pure_run.mpr ⟨rfl, rfl, rfl⟩, rfl⟩)

/-- The frame of a nested command is the first above those of its caller. -/
theorem pending_above {events : List Object} {above : List Frame} :
    ((fs ++ ⟨command, events⟩ :: above)[fs.length]?.map (·.pending)).getD [] = events := by
  rw [List.getElem?_append_right (Nat.le_refl _), Nat.sub_self]
  rfl

/-- **The three variants side by side**, from the frame of a caller on top of any others.  `body` is
what the command does on its own frame, whichever variant executes it. -/
inductive Agreement (env : Environment D) (n : Nat) (command : Object) (lower : List Frame)
    (caller : Frame) : Prop where
  /-- The requests are nested deeper than the bound. -/
  | exhausted
    (hplain : ∀ h reply fs',
      ¬ Ends (perform env n (.execute command)) (lower ++ [caller]) h reply fs')
    (hinspecting : ∀ stop h reply fs',
      ¬ Ends (perform env n (.executeWithEvents command stop)) (lower ++ [caller]) h reply fs')
  /-- The calling frame gets the events unless they stop here, and whoever inspects them is given
  them either way. -/
  | returned {body : List Happening} {result : CommandResult} {events : List Object}
    (hplain : Ends (perform env n (.execute command)) (lower ++ [caller])
      (.mark (.opened command) :: (body ++ [.mark (.closed .joined)])) (.ok result)
      (lower ++ [⟨caller.command, caller.pending ++ events⟩]))
    (hjoining : Ends (perform env n (.executeWithEvents command false)) (lower ++ [caller])
      (.mark (.opened command) :: (body ++ [.mark (.closed .joined)])) (.ok (result, events))
      (lower ++ [⟨caller.command, caller.pending ++ events⟩]))
    (hstopping : Ends (perform env n (.executeWithEvents command true)) (lower ++ [caller])
      (.mark (.opened command) :: (body ++ [.mark (.closed .withheld)])) (.ok (result, events))
      (lower ++ [caller]))
  | failed {body : List Happening} {f : Failure}
    (hplain : Ends (perform env n (.execute command)) (lower ++ [caller])
      (.mark (.opened command) :: (body ++ [.mark (.closed .failed)])) (.error (.failure f))
      (lower ++ [caller]))
    (hinspecting : ∀ stop, Ends (perform env n (.executeWithEvents command stop)) (lower ++ [caller])
      (.mark (.opened command) :: (body ++ [.mark (.closed .failed)])) (.error (.failure f))
      (lower ++ [caller]))
  /-- The frame of the command and those above it are left to whoever contains the panic. -/
  | panicked {body : List Happening} {p : Panic} {events : List Object} {above : List Frame}
    (hplain : Ends (perform env n (.execute command)) (lower ++ [caller])
      (.mark (.opened command) :: body) (.error (.panic p))
      (lower ++ caller :: ⟨command, events⟩ :: above))
    (hinspecting : ∀ stop, Ends (perform env n (.executeWithEvents command stop)) (lower ++ [caller])
      (.mark (.opened command) :: body) (.error (.panic p))
      (lower ++ caller :: ⟨command, events⟩ :: above))

theorem agreement (env : Environment D) (n : Nat) (command : Object) (lower : List Frame)
    (caller : Frame) : Agreement env n command lower caller := by
  cases n with
  | zero => exact .exhausted (fun _ _ _ => not_ends_failure) (fun _ _ _ _ => not_ends_failure)
  | succ n =>
    have hne : lower ++ [caller] ≠ [] := List.append_ne_nil_of_right_ne_nil _ (List.cons_ne_nil _ _)
    by_cases hsome : ∃ body inner mid, Ends (rawExecute env (perform env n) command false).run
        (lower ++ [caller] ++ [⟨command, []⟩]) body inner mid
    · obtain ⟨body, inner, mid, hraw⟩ := hsome
      have hextends := extending_rawExecute (extends_perform n) command false hraw
      have hkept := hextends.take_concat
      obtain ⟨events, above, rfl⟩ := extends_concat.mp hextends
      rw [List.nil_append] at hraw hkept
      -- what the command ended in decides how each variant closes its frame
      rcases inner with (f | p) | result
      · have hnested (stop giveEvents : Bool) :
            Ends (executeNested env (perform env n) command stop giveEvents).run _ _ _ _ :=
          executeNested_of_rawExecute hne hkept hraw (.failed f)
        rw [hkept] at hnested
        exact .failed (ends_execute.mpr ⟨_, hnested false false, rfl⟩) fun stop => hnested stop true
      · have hnested (stop giveEvents : Bool) :
            Ends (executeNested env (perform env n) command stop giveEvents).run _ _ _ _ :=
          executeNested_of_rawExecute hne hkept hraw (.panicked p)
        rw [List.append_assoc] at hnested
        exact .panicked (ends_execute.mpr ⟨_, hnested false false, rfl⟩) fun stop => hnested stop true
      · have hjoined (giveEvents : Bool) :
            Ends (executeNested env (perform env n) command false giveEvents).run _ _ _ _ :=
          executeNested_of_rawExecute hne hkept hraw (.joined result Bool.false_ne_true)
        have hwithheld : Ends (executeNested env (perform env n) command true true).run _ _ _ _ :=
          executeNested_of_rawExecute hne hkept hraw (.withheld result rfl)
        rw [pending_above, hkept] at hwithheld
        simp only [pending_above, hkept, joinTop_concat] at hjoined
        exact .returned (ends_execute.mpr ⟨_, hjoined false, rfl⟩) (hjoined true) hwithheld
    · have hnone (stop giveEvents : Bool) {h out fs'} :
          ¬ Ends (executeNested env (perform env n) command stop giveEvents).run
            (lower ++ [caller]) h out fs' := by
        intro hends
        rcases ends_executeNested hends with ⟨hnil, -⟩ | ⟨inner, mid, body, _, -, hraw, -⟩
        · exact hne hnil
        · exact hsome ⟨body, inner, mid, hraw⟩
      refine .exhausted (fun h reply fs' hends => ?_) fun stop _ _ _ => hnone stop true
      obtain ⟨given, hnested, -⟩ := ends_execute.mp hends
      exact hnone false false hnested

/-- **The three variants of a nested execution agree.**  Inside a chain, on any frames and at any
depth of nesting, they run the same code with the same effects and end in the same result or the
same error; they differ in who gets the events of the command.  Outside a chain each of them fails
and nothing happens. -/
theorem variants_agree (env : Environment D) (n : Nat) (command : Object) :
    (∀ lower caller, Agreement env n command lower caller) ∧
    Ends (perform env (n + 1) (.execute command)) [] []
      (.error (EngineError.invalidState "no active call chain to execute a command" : Raise)) [] ∧
    ∀ stop, Ends (perform env (n + 1) (.executeWithEvents command stop)) [] []
      (.error (EngineError.invalidState "no active call chain to execute a command" : Raise)) [] :=
  ⟨agreement env n command, rfl, fun _ => rfl⟩

/-- A command that emits before and after a nested failure, executed for a caller who keeps its
events. -/
example : ∃ h, Ends (perform Nested.environment 5 (.executeWithEvents (Nested.object "outer" 0) true))
    [⟨Nested.object "caller" 0, [Nested.object "event" 0]⟩] h
    (.ok (.void, [Nested.object "event" 1, Nested.object "event" 3]))
    [⟨Nested.object "caller" 0, [Nested.object "event" 0]⟩] := ⟨_, rfl⟩

end Chain
end CommandEngine
