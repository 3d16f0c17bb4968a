import CommandEngine.Chain

/-!
# How computations end

The computations of the engine are stacks of layers.  A `Run` has a history, and it may have no
result, when the nesting is exhausted.  On top of it there may be a state, the frames of a chain or
what is known of a job, and on top of that the way out of a failure or a panic.  Proofs look at them
from outside: `Yields x h a` says that `x` has the result `a` and the history `h`, and
`Leads x s h a s'` says this of a computation that is begun in the state `s` and ends in `s'`.  What
has no result yields nothing, so what is said of everything a computation yields is said of every
run that returns.

The lemmas say what sequences and the basic operations end in, whatever the state is; nothing built
on them looks inside the layers.
-/
namespace CommandEngine
namespace Run

variable {σ α β : Type} {s s' : σ} {h : List Happening}

/-- `x` has the result `a` and the history `h`. -/
def Yields (x : Run α) (h : List Happening) (a : α) : Prop := x.run = ⟨h, some a⟩

/-- `x` in the state `s` has the result `a` and the history `h`, and leaves the state `s'`. -/
def Leads (x : StateT σ Run α) (s : σ) (h : List Happening) (a : α) (s' : σ) : Prop :=
  Yields (x.run s) h (a, s')

/-! ## Computations without a state -/

/-- A computation whose layers are known ends in what they say. -/
theorem yields_of_run {x : Run α} {h₀ : List Happening} {a b : α} (hx : x.run = ⟨h₀, some a⟩) :
    Yields x h b ↔ h = h₀ ∧ b = a := by
  rw [Yields, hx]
  constructor
  · intro heq
    cases heq
    exact ⟨rfl, rfl⟩
  · rintro ⟨rfl, rfl⟩
    rfl

theorem yields_pure {a b : α} : Yields (pure a) h b ↔ h = [] ∧ b = a := yields_of_run rfl

theorem yields_bind {x : Run α} {f : α → Run β} {b : β} :
    Yields (x >>= f) h b ↔ ∃ a h₁ h₂, Yields x h₁ a ∧ Yields (f a) h₂ b ∧ h = h₁ ++ h₂ := by
  unfold Yields
  rw [OptionT.run_bind, Option.elimM]
  rcases hx : x.run with ⟨h₁, _ | a⟩
  · constructor
    · intro hy
      cases congrArg Traced.value hy
    · rintro ⟨a, h₁', h₂, hx', -, -⟩
      cases congrArg Traced.value hx'
  · constructor
    · intro hy
      have hvalue : ((f a).run).value = some b := congrArg Traced.value hy
      exact ⟨a, h₁, _, rfl, Traced.ext rfl hvalue, (congrArg Traced.history hy).symm⟩
    · rintro ⟨a', h₁', h₂, hx', hy, rfl⟩
      obtain ⟨rfl, hvalue⟩ := Traced.mk.inj hx'
      obtain rfl := Option.some.inj hvalue
      have hhistory : ((f a).run).history = h₂ := congrArg Traced.history hy
      exact Traced.ext (congrArg (h₁ ++ ·) hhistory) (congrArg Traced.value hy :)

/-- A sequence whose first part is known. -/
theorem Yields.bind {x : Run α} {f : α → Run β} {h₀ : List Happening} {a : α} {b : β}
    (hx : Yields x h₀ a) :
    Yields (x >>= f) h b ↔ ∃ rest, Yields (f a) rest b ∧ h = h₀ ++ rest := by
  rw [yields_bind]
  constructor
  · rintro ⟨a', h₁, rest, hx', hf, rfl⟩
    obtain ⟨rfl, rfl⟩ := (yields_of_run hx).mp hx'
    exact ⟨rest, hf, rfl⟩
  · rintro ⟨rest, hf, rfl⟩
    exact ⟨a, h₀, rest, hx, hf, rfl⟩

theorem yields_lift {a : Account α} {b : α} :
    Yields (liftM a) h b ↔ h = a.history ∧ b = a.value :=
  yields_of_run (Traced.ext (by simp [liftM, monadLift, MonadLift.monadLift, OptionT.lift]) rfl)

theorem yields_lift_bind {a : Account α} {f : α → Run β} {b : β} :
    Yields (liftM a >>= f) h b ↔ ∃ rest, Yields (f a.value) rest b ∧ h = a.history ++ rest :=
  (yields_lift.mpr ⟨rfl, rfl⟩).bind

/-! ## Computations with a state -/

/-- A computation whose layers are known ends in what they say. -/
theorem leads_of_run {x : StateT σ Run α} {h₀ : List Happening} {a b : α} {mid : σ}
    (hx : (x.run s).run = ⟨h₀, some (a, mid)⟩) :
    Leads x s h b s' ↔ h = h₀ ∧ b = a ∧ s' = mid := by
  rw [Leads, yields_of_run hx, Prod.mk.injEq]

/-- A computation ends in one way only. -/
theorem Leads.iff {x : StateT σ Run α} {h₀ : List Happening} {a b : α} {mid : σ}
    (hx : Leads x s h₀ a mid) : Leads x s h b s' ↔ h = h₀ ∧ b = a ∧ s' = mid :=
  leads_of_run hx

theorem leads_pure {a b : α} : Leads (pure a) s h b s' ↔ h = [] ∧ b = a ∧ s' = s :=
  leads_of_run rfl

theorem leads_bind {x : StateT σ Run α} {f : α → StateT σ Run β} {b : β} :
    Leads (x >>= f) s h b s' ↔ ∃ a mid h₁ h₂,
      Leads x s h₁ a mid ∧ Leads (f a) mid h₂ b s' ∧ h = h₁ ++ h₂ := by
  rw [Leads, StateT.run_bind, yields_bind]
  constructor
  · rintro ⟨⟨a, mid⟩, h₁, h₂, hx, hf, rfl⟩
    exact ⟨a, mid, h₁, h₂, hx, hf, rfl⟩
  · rintro ⟨a, mid, h₁, h₂, hx, hf, rfl⟩
    exact ⟨(a, mid), h₁, h₂, hx, hf, rfl⟩

theorem leads_liftRun {x : Run α} {b : α} :
    Leads (liftM x : StateT σ Run α) s h b s' ↔ Yields x h b ∧ s' = s := by
  have hlift : (liftM x : StateT σ Run α).run s = x >>= fun a => pure (a, s) := rfl
  rw [Leads, hlift, yields_bind]
  constructor
  · rintro ⟨a, h₁, h₂, hx, hpure, rfl⟩
    obtain ⟨rfl, hpair⟩ := yields_pure.mp hpure
    cases hpair
    exact ⟨by rwa [List.append_nil], rfl⟩
  · rintro ⟨hx, rfl⟩
    exact ⟨b, h, [], hx, yields_pure.mpr ⟨rfl, rfl⟩, (List.append_nil h).symm⟩

theorem leads_lift {a : Account α} {b : α} :
    Leads (liftM a : StateT σ Run α) s h b s' ↔ h = a.history ∧ b = a.value ∧ s' = s :=
  leads_of_run (Traced.ext (by simp [liftM, monadLift, MonadLift.monadLift, OptionT.lift]) rfl)

/-! ## Computations that may fail -/

section Failing

variable {out : Outcome α}

/-- A sequence stops at what is raised in its first part. -/
theorem leads_bind_run {x : ExceptT Raise (StateT σ Run) β}
    {f : β → ExceptT Raise (StateT σ Run) α} :
    Leads (x >>= f).run s h out s' ↔
      (∃ e, Leads x.run s h (.error e) s' ∧ out = .error e) ∨
      ∃ a mid h₁ h₂, Leads x.run s h₁ (.ok a) mid ∧ Leads (f a).run mid h₂ out s' ∧
        h = h₁ ++ h₂ := by
  rw [ExceptT.run_bind, leads_bind]
  constructor
  · rintro ⟨first, mid, h₁, h₂, hx, hrest, rfl⟩
    cases first with
    | ok a => exact .inr ⟨a, mid, h₁, h₂, hx, hrest, rfl⟩
    | error e =>
      obtain ⟨rfl, rfl, rfl⟩ := leads_pure.mp hrest
      exact .inl ⟨e, by rwa [List.append_nil], rfl⟩
  · rintro (⟨e, hx, rfl⟩ | ⟨a, mid, h₁, h₂, hx, hrest, rfl⟩)
    · exact ⟨_, _, _, _, hx, leads_pure.mpr ⟨rfl, rfl, rfl⟩, (List.append_nil h).symm⟩
    · exact ⟨_, _, _, _, hx, hrest, rfl⟩

theorem Leads.bind_error {x : ExceptT Raise (StateT σ Run) β}
    {f : β → ExceptT Raise (StateT σ Run) α} {h₀ : List Happening} {e : Raise} {mid : σ}
    (hx : Leads x.run s h₀ (.error e) mid) :
    Leads (x >>= f).run s h out s' ↔ h = h₀ ∧ out = .error e ∧ s' = mid := by
  rw [leads_bind_run]
  constructor
  · rintro (⟨e', hx', rfl⟩ | ⟨a, mid', h₁, h₂, hx', -, -⟩)
    · obtain ⟨rfl, he, rfl⟩ := hx.iff.mp hx'
      cases he
      exact ⟨rfl, rfl, rfl⟩
    · cases (hx.iff.mp hx').2.1
  · rintro ⟨rfl, rfl, rfl⟩
    exact .inl ⟨e, hx, rfl⟩

theorem Leads.bind_ok {x : ExceptT Raise (StateT σ Run) β}
    {f : β → ExceptT Raise (StateT σ Run) α} {h₀ : List Happening} {a : β} {mid : σ}
    (hx : Leads x.run s h₀ (.ok a) mid) :
    Leads (x >>= f).run s h out s' ↔ ∃ rest, Leads (f a).run mid rest out s' ∧ h = h₀ ++ rest := by
  rw [leads_bind_run]
  constructor
  · rintro (⟨e, hx', -⟩ | ⟨a', mid', h₁, rest, hx', hf, rfl⟩)
    · cases (hx.iff.mp hx').2.1
    · obtain ⟨rfl, ha, rfl⟩ := hx.iff.mp hx'
      cases ha
      exact ⟨rest, hf, rfl⟩
  · rintro ⟨rest, hf, rfl⟩
    exact .inr ⟨a, mid, h₀, rest, hx, hf, rfl⟩

theorem leads_pure_run {a : α} :
    Leads (pure a : ExceptT Raise (StateT σ Run) α).run s h out s' ↔
      h = [] ∧ out = .ok a ∧ s' = s :=
  leads_of_run rfl

theorem leads_throw_run {e : Raise} :
    Leads (throw e : ExceptT Raise (StateT σ Run) α).run s h out s' ↔
      h = [] ∧ out = .error e ∧ s' = s :=
  leads_of_run rfl

theorem leads_outcome_run {outcome : Outcome α} :
    Leads (ExceptT.mk (pure outcome) : ExceptT Raise (StateT σ Run) α).run s h out s' ↔
      h = [] ∧ out = outcome ∧ s' = s :=
  leads_of_run rfl

theorem leads_lift_run {a : Account α} :
    Leads (liftM a : ExceptT Raise (StateT σ Run) α).run s h out s' ↔
      h = a.history ∧ out = .ok a.value ∧ s' = s :=
  leads_of_run (Traced.ext (by simp [liftM, monadLift, MonadLift.monadLift, OptionT.lift]) rfl)

/-- A computation that cannot fail, among those that may. -/
theorem leads_state_run {x : StateT σ Run α} :
    Leads (liftM x : ExceptT Raise (StateT σ Run) α).run s h out s' ↔
      ∃ a, out = .ok a ∧ Leads x s h a s' := by
  have hlift : (liftM x : ExceptT Raise (StateT σ Run) α).run = x >>= fun a => pure (.ok a) := rfl
  rw [hlift, leads_bind]
  constructor
  · rintro ⟨a, mid, h₁, h₂, hx, hok, rfl⟩
    obtain ⟨rfl, rfl, rfl⟩ := leads_pure.mp hok
    exact ⟨a, rfl, by rwa [List.append_nil]⟩
  · rintro ⟨a, rfl, hx⟩
    exact ⟨a, s', h, [], hx, leads_pure.mpr ⟨rfl, rfl, rfl⟩, (List.append_nil h).symm⟩

theorem leads_state_bind {x : StateT σ Run β} {f : β → ExceptT Raise (StateT σ Run) α} :
    Leads (liftM x >>= f).run s h out s' ↔ ∃ a mid h₁ h₂,
      Leads x s h₁ a mid ∧ Leads (f a).run mid h₂ out s' ∧ h = h₁ ++ h₂ := by
  rw [leads_bind_run]
  constructor
  · rintro (⟨e, hlift, -⟩ | ⟨value, mid, h₁, h₂, hlift, hrest, rfl⟩)
    · obtain ⟨a, hok, -⟩ := leads_state_run.mp hlift
      cases hok
    · obtain ⟨a, hok, hx⟩ := leads_state_run.mp hlift
      cases hok
      exact ⟨_, mid, h₁, h₂, hx, hrest, rfl⟩
  · rintro ⟨a, mid, h₁, h₂, hx, hrest, rfl⟩
    exact .inr ⟨a, mid, h₁, h₂, leads_state_run.mpr ⟨a, rfl, hx⟩, hrest, rfl⟩

theorem leads_lift_bind {a : Account β} {f : β → ExceptT Raise (StateT σ Run) α} :
    Leads (liftM a >>= f).run s h out s' ↔
      ∃ rest, Leads (f a.value).run s rest out s' ∧ h = a.history ++ rest := by
  rw [leads_bind_run]
  constructor
  · rintro (⟨e, hlift, -⟩ | ⟨value, mid, h₁, rest, hlift, hrest, rfl⟩)
    · cases (leads_lift_run.mp hlift).2.1
    · obtain ⟨rfl, hvalue, rfl⟩ := leads_lift_run.mp hlift
      cases hvalue
      exact ⟨rest, hrest, rfl⟩
  · rintro ⟨rest, hrest, rfl⟩
    exact .inr ⟨_, _, _, rest, leads_lift_run.mpr ⟨rfl, rfl, rfl⟩, hrest, rfl⟩

/-- What has no state leaves the one it finds. -/
theorem leads_liftRun_bind {x : Run β} {f : β → ExceptT Raise (StateT σ Run) α} :
    Leads (liftM x >>= f).run s h out s' ↔ ∃ a h₁ h₂,
      Yields x h₁ a ∧ Leads (f a).run s h₂ out s' ∧ h = h₁ ++ h₂ := by
  have hlift : (liftM x : ExceptT Raise (StateT σ Run) β) = liftM (liftM x : StateT σ Run β) := rfl
  rw [hlift, leads_state_bind]
  constructor
  · rintro ⟨a, mid, h₁, h₂, hlifted, hf, rfl⟩
    obtain ⟨hx, rfl⟩ := leads_liftRun.mp hlifted
    exact ⟨a, h₁, h₂, hx, hf, rfl⟩
  · rintro ⟨a, h₁, h₂, hx, hf, rfl⟩
    exact ⟨a, s, h₁, h₂, leads_liftRun.mpr ⟨hx, rfl⟩, hf, rfl⟩

end Failing

end Run
end CommandEngine
