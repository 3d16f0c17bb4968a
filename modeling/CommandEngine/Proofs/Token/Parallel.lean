import CommandEngine.Proofs.Run
import CommandEngine.Proofs.Token.Alike

/-!
# Computations side by side

Two computations *match* if their histories are alike and something holds between their values.
Where a computation has a state, both are begun in states that are related and have to leave such
states (`Parallel`).  Whatever is put together from matching parts matches, so for the operations
of the engine it is enough to follow their text: the lemmas of this module say it of every way in
which they put parts together.
-/
namespace CommandEngine

section Accounts
variable (t t' : Token) {α β : Type}

/-- The histories are alike, and `V` holds between the values. -/
structure Account.Matches (V : α → α → Prop) (x y : Account α) : Prop where
  history : HistoryAlike t t' x.history y.history
  value : V x.value y.value

/-- The histories are alike, and the results, if there are any. -/
def Run.Matches (V : α → α → Prop) (x y : Run α) : Prop :=
  Account.Matches t t' (Option.Rel V) x.run y.run

/-- Begun in states that are related, the computations match and leave such states. -/
def Run.Parallel {σ : Type} (S : σ → σ → Prop) (V : α → α → Prop) (x y : StateT σ Run α) : Prop :=
  ∀ s s', S s s' → Run.Matches t t' (fun p q => V p.1 q.1 ∧ S p.2 q.2) (x.run s) (y.run s')

end Accounts

variable {t t' : Token} {α β : Type} {V : α → α → Prop} {W : β → β → Prop}

theorem HistoryAlike.append {h₁ h₁' h₂ h₂' : List Happening} (hfirst : HistoryAlike t t' h₁ h₁')
    (hsecond : HistoryAlike t t' h₂ h₂') : HistoryAlike t t' (h₁ ++ h₂) (h₁' ++ h₂') := by
  unfold HistoryAlike at *
  induction hfirst with
  | nil => exact hsecond
  | cons hhead _ ih => exact .cons hhead ih

theorem historyAlike_signs (signs : List Sign) :
    HistoryAlike t t' (signs.map Happening.sign) (signs.map Happening.sign) := by
  induction signs with
  | nil => exact .nil
  | cons s signs ih => exact .cons (.sign s) ih

namespace Account

theorem matches_pure {a a' : α} (ha : V a a') : Matches t t' V (pure a) (pure a') := ⟨.nil, ha⟩

theorem Matches.bind {x y : Account α} {f g : α → Account β} (hxy : Matches t t' V x y)
    (hfg : ∀ a a', V a a' → Matches t t' W (f a) (g a')) :
    Matches t t' W (x >>= f) (y >>= g) := by
  have hrest := hfg _ _ hxy.value
  exact ⟨hxy.history.append hrest.history, hrest.value⟩

/-- Code that does the same in both runs is followed by what goes on with its value. -/
theorem Matches.bind_value {x : Account α} {f g : α → Account β} (hx : Matches t t' Eq x x)
    (hfg : Matches t t' W (f x.value) (g x.value)) : Matches t t' W (x >>= f) (x >>= g) :=
  ⟨hx.history.append hfg.history, hfg.value⟩

theorem Matches.mono {V' : α → α → Prop} {x y : Account α} (hxy : Matches t t' V x y)
    (hV : ∀ a a', V a a' → V' a a') : Matches t t' V' x y := ⟨hxy.history, hV _ _ hxy.value⟩

theorem matches_log {e e' : LogEvent} (he : e.Alike t t' e') :
    Matches t t' Eq (log e) (log e') := ⟨.cons (.log he) .nil, rfl⟩

theorem matches_mark {m m' : Mark} (hm : m.Alike t t' m') :
    Matches t t' Eq (mark m) (mark m') := ⟨.cons (.mark hm) .nil, rfl⟩

theorem matches_sign (s : Sign) :
    Matches t t' Eq (Traced.tell (.sign s) : Account Unit) (Traced.tell (.sign s)) :=
  ⟨.cons (.sign s) .nil, rfl⟩

/-- Application code that sees no token does the same in both runs. -/
theorem matches_act (a : Act α) : Matches t t' Eq (act a) (act a) :=
  ⟨historyAlike_signs a.signs, rfl⟩

theorem matches_notice (n : Notice) : Matches t t' Eq (notice n) (notice n) :=
  ⟨historyAlike_signs n.signs, rfl⟩

end Account

namespace Run

/-! ## Computations that may have no result -/

theorem matches_pure {a a' : α} (ha : V a a') : Matches t t' V (pure a) (pure a') :=
  Account.matches_pure (.some ha)

theorem matches_failure : Matches t t' V (failure : Run α) failure := Account.matches_pure .none

theorem Matches.bind {x y : Run α} {f g : α → Run β} (hxy : Matches t t' V x y)
    (hfg : ∀ a a', V a a' → Matches t t' W (f a) (g a')) :
    Matches t t' W (x >>= f) (y >>= g) := by
  unfold Matches
  rw [OptionT.run_bind, OptionT.run_bind]
  refine Account.Matches.bind hxy fun a a' ha => ?_
  cases ha with
  | some ha => exact hfg _ _ ha
  | none => exact matches_failure

theorem matches_lift {x y : Account α} (hxy : Account.Matches t t' V x y) :
    Matches t t' V (liftM x : Run α) (liftM y : Run α) := by
  show Account.Matches t t' _ (some <$> x) (some <$> y)
  rw [← bind_pure_comp, ← bind_pure_comp]
  exact hxy.bind fun a a' ha => matches_pure ha

theorem Matches.mono {V' : α → α → Prop} {x y : Run α} (hxy : Matches t t' V x y)
    (hV : ∀ a a', V a a' → V' a a') : Matches t t' V' x y := by
  refine Account.Matches.mono hxy fun a a' ha => ?_
  cases ha with
  | some ha => exact .some (hV _ _ ha)
  | none => exact .none

/-! ## Computations with a state -/

section Stateful
variable {σ : Type} {S : σ → σ → Prop}

theorem parallel_pure {a a' : α} (ha : V a a') :
    Parallel t t' S V (pure a : StateT σ Run α) (pure a') :=
  fun _ _ hs => matches_pure ⟨ha, hs⟩

theorem Parallel.bind {x y : StateT σ Run α} {f g : α → StateT σ Run β}
    (hxy : Parallel t t' S V x y) (hfg : ∀ a a', V a a' → Parallel t t' S W (f a) (g a')) :
    Parallel t t' S W (x >>= f) (y >>= g) := by
  intro s s' hs
  rw [StateT.run_bind, StateT.run_bind]
  exact (hxy s s' hs).bind fun p q hpq => hfg _ _ hpq.1 _ _ hpq.2

theorem parallel_get : Parallel t t' S S (get : StateT σ Run σ) get :=
  fun _ _ hs => matches_pure ⟨hs, hs⟩

theorem parallel_modify {f g : σ → σ} (hfg : ∀ s s', S s s' → S (f s) (g s')) :
    Parallel t t' S Eq (modify f : StateT σ Run Unit) (modify g) :=
  fun _ _ hs => matches_pure ⟨rfl, hfg _ _ hs⟩

theorem parallel_liftRun {x y : Run α} (hxy : Matches t t' V x y) :
    Parallel t t' S V (liftM x : StateT σ Run α) (liftM y) :=
  fun _ _ hs => hxy.bind fun _ _ ha => matches_pure ⟨ha, hs⟩

theorem parallel_lift {x y : Account α} (hxy : Account.Matches t t' V x y) :
    Parallel t t' S V (liftM x : StateT σ Run α) (liftM y) :=
  parallel_liftRun (matches_lift hxy)

/-! ## Computations that may fail -/

theorem parallel_pure_run {a a' : α} (ha : V a a') :
    Parallel t t' S (OutcomeAlike t t' V) (pure a : ExceptT Raise (StateT σ Run) α).run
      (pure a' : ExceptT Raise (StateT σ Run) α).run := parallel_pure (.ok ha)

theorem parallel_outcome_run {o o' : Outcome α} (ho : OutcomeAlike t t' V o o') :
    Parallel t t' S (OutcomeAlike t t' V) (ExceptT.mk (pure o) : ExceptT Raise (StateT σ Run) α).run
      (ExceptT.mk (pure o') : ExceptT Raise (StateT σ Run) α).run := parallel_pure ho

theorem parallel_throw_run {e e' : Raise} (he : e.Alike t t' e') :
    Parallel t t' S (OutcomeAlike t t' V) (throw e : ExceptT Raise (StateT σ Run) α).run
      (throw e' : ExceptT Raise (StateT σ Run) α).run := parallel_pure (.error he)

theorem parallel_bind_run {x y : ExceptT Raise (StateT σ Run) α}
    {f g : α → ExceptT Raise (StateT σ Run) β}
    (hxy : Parallel t t' S (OutcomeAlike t t' V) x.run y.run)
    (hfg : ∀ a a', V a a' → Parallel t t' S (OutcomeAlike t t' W) (f a).run (g a').run) :
    Parallel t t' S (OutcomeAlike t t' W) (x >>= f).run (y >>= g).run := by
  rw [ExceptT.run_bind, ExceptT.run_bind]
  refine hxy.bind fun o o' ho => ?_
  cases ho with
  | ok ha => exact hfg _ _ ha
  | error he => exact parallel_pure (.error he)

/-- What cannot fail, among the computations that may. -/
theorem parallel_state_run {x y : StateT σ Run α} (hxy : Parallel t t' S V x y) :
    Parallel t t' S (OutcomeAlike t t' V) (liftM x : ExceptT Raise (StateT σ Run) α).run
      (liftM y : ExceptT Raise (StateT σ Run) α).run := by
  have hlift (x : StateT σ Run α) :
      (liftM x : ExceptT Raise (StateT σ Run) α).run = x >>= fun a => pure (.ok a) := rfl
  rw [hlift, hlift]
  exact hxy.bind fun _ _ ha => parallel_pure (.ok ha)

theorem parallel_lift_run {x y : Account α} (hxy : Account.Matches t t' V x y) :
    Parallel t t' S (OutcomeAlike t t' V) (liftM x : ExceptT Raise (StateT σ Run) α).run
      (liftM y : ExceptT Raise (StateT σ Run) α).run := parallel_state_run (parallel_lift hxy)

/-- Code that does the same in both runs is followed by what goes on with its value. -/
theorem parallel_lift_bind_run {x : Account α} {f g : α → ExceptT Raise (StateT σ Run) β}
    (hx : Account.Matches t t' Eq x x)
    (hfg : Parallel t t' S (OutcomeAlike t t' W) (f x.value).run (g x.value).run) :
    Parallel t t' S (OutcomeAlike t t' W) (liftM x >>= f).run (liftM x >>= g).run := by
  intro s s' hs
  have hlift (f : α → ExceptT Raise (StateT σ Run) β) (s : σ) :
      ((liftM x >>= f).run.run s).run = x >>= fun a => ((f a).run.run s).run :=
    Traced.ext (by simp [liftM, monadLift, MonadLift.monadLift, OptionT.lift]) rfl
  unfold Matches
  rw [hlift, hlift]
  exact hx.bind_value (hfg s s' hs)

end Stateful
end Run
end CommandEngine
