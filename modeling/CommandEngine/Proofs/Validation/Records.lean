import CommandEngine.Proofs.Validation.Order

/-!
# What a handling validation records

A validator that fails or panics in the handling validation stops it, and whoever asked for the
validation sees what was raised.  Nothing is contained there, so there is no record of an error; a
command that is rejected leaves a record of a lower level.  Validators have no way to the caller's
stream, so nothing is streamed either.
-/
namespace CommandEngine
namespace Validation

open Account

variable {D : Type} {registry : Registry D} {services : D} {stage : ValidationStage}
  {token : Token} {o : Object}

theorem plain_lift {α : Type} {a : Account α} (ha : a.Plain) (s : ValidationState) :
    ((liftM a : Step α).run s).Plain := by
  show Plain (a >>= fun value => pure (value, s))
  exact ha.bind (plain_pure _)

/-- The requests of a validator make no record of an error and stream nothing. -/
theorem plain_compositional : Compositional fun {_} x => ∀ s, (x.run s).Plain where
  pure a := fun s => plain_pure (a, s)
  get := fun s => plain_pure (s, s)
  modify _ := fun _ => plain_pure ((), _)
  lift _ ha := plain_lift ha
  bind hx hf := by
    intro s
    rw [StateT.run_bind]
    exact (hx s).bind (hf _ _)

theorem plain_call (slot : Slot D (Validator D)) (index : Nat) (s : ValidationState) :
    ((call registry services stage token o slot index).run s).Plain := by
  refine plain_compositional.bind (plain_lift (plain_mark _)) (fun _ => ?_) s
  refine plain_compositional.bind (plain_lift (plain_act _)) fun validator => ?_
  cases validator with
  | error e => exact plain_compositional.pure _
  | ok validator => exact plain_compositional.interpret _

theorem Calls.plain {slots : List (Slot D (Validator D) × Nat)} {s s' : ValidationState}
    {h : List Happening} {out : Outcome Unit}
    (hcalls : Calls registry services stage token o slots s h out s') :
    errors h = [] ∧ streamed h = [] := by
  induction hcalls with
  | none => exact ⟨rfl, rfl⟩
  | @next slot index _ s _ _ _ _ _ hcall _ ih =>
    have hplain : Plain ((call registry services stage token o slot index).run s) :=
      plain_call slot index s
    rw [hcall] at hplain
    rw [errors_append, streamed_append, hplain.calm, hplain.unheard]
    exact ih
  | @stopped slot index _ s _ _ _ hcall =>
    have hplain : Plain ((call registry services stage token o slot index).run s) :=
      plain_call slot index s
    rw [hcall] at hplain
    exact ⟨hplain.calm, hplain.unheard⟩

theorem plain_handling : Plain (handling registry services token o).run := by
  cases hfound : registry.require o with
  | error e =>
    unfold handling
    rw [hfound]
    exact plain_pure _
  | ok d =>
    have hjudges : Judges registry services token o d.handlingValidators _ _ :=
      handling_judges hfound
    suffices hrecords : errors (handling registry services token o).run.history = [] ∧
        streamed (handling registry services token o).run.history = [] from
      ⟨hrecords.1, hrecords.2⟩
    generalize (handling registry services token o).run.history = h at hjudges ⊢
    generalize (handling registry services token o).run.value = out at hjudges
    cases hjudges with
    | raised hcalls => exact hcalls.plain
    | accepted hcalls => exact hcalls.plain
    | rejected hcalls =>
      -- the record of a rejected command is no error
      rw [errors_append, streamed_append, hcalls.plain.1, hcalls.plain.2]
      exact ⟨rfl, rfl⟩

theorem calm_handling : Calm (handling registry services token o).run := plain_handling.calm

end Validation
end CommandEngine
