import CommandEngine.Proofs.Run

/-!
# How runs of a chain end

The state of a chain are its frames.  `Ends x fs h a fs'` says that `x`, begun on the frames `fs`,
has a result, namely `a`, and leaves the frames `fs'` and the history `h`.  A run without a result
ends in nothing, so what is said of everything a computation ends in is said of every run that
returns.

The lemmas of this module are those on computations with any state, said of frames, together with
what the basic operations of a chain end in.
-/
namespace CommandEngine
namespace Chain

open Run

variable {α β : Type} {fs fs' : List Frame} {h : List Happening}

/-- `x` on the frames `fs` has the result `a`, the history `h` and leaves the frames `fs'`. -/
def Ends (x : OnStack α) (fs : List Frame) (h : List Happening) (a : α) (fs' : List Frame) : Prop :=
  (x.run fs).run = ⟨h, some (a, fs')⟩

/-- The marks in a history. -/
def marks (h : List Happening) : List Mark := h.filterMap Happening.mark?

@[simp] theorem marks_nil : marks [] = [] := rfl

@[simp] theorem marks_append (h₁ h₂ : List Happening) : marks (h₁ ++ h₂) = marks h₁ ++ marks h₂ :=
  List.filterMap_append

theorem mem_marks {m : Mark} : m ∈ marks h ↔ .mark m ∈ h := by
  rw [marks, List.mem_filterMap]
  constructor
  · rintro ⟨entry, hentry, hmark⟩
    cases entry with
    | mark m' => exact Option.some.inj hmark ▸ hentry
    | sign | log | streamed => cases hmark
  · exact fun hm => ⟨_, hm, rfl⟩

/-! ## Sequences -/

/-- A computation whose layers are known ends in what they say. -/
theorem ends_of_run {x : OnStack α} {a b : α} {mid : List Frame} {h₀ : List Happening}
    (hx : (x.run fs).run = ⟨h₀, some (a, mid)⟩) :
    Ends x fs h b fs' ↔ h = h₀ ∧ b = a ∧ fs' = mid :=
  leads_of_run hx

theorem ends_pure {a b : α} : Ends (pure a) fs h b fs' ↔ h = [] ∧ b = a ∧ fs' = fs :=
  leads_pure

theorem ends_bind {x : OnStack α} {f : α → OnStack β} {b : β} :
    Ends (x >>= f) fs h b fs' ↔ ∃ a mid h₁ h₂,
      Ends x fs h₁ a mid ∧ Ends (f a) mid h₂ b fs' ∧ h = h₁ ++ h₂ :=
  leads_bind

theorem ends_frames {f : List Frame → OnStack α} {a : α} :
    Ends (get >>= f) fs h a fs' ↔ Ends (f fs) fs h a fs' :=
  Iff.rfl

/-- A run that cannot have a result ends in nothing. -/
theorem not_ends_failure {a : α} : ¬ Ends (liftM (failure : Run α)) fs h a fs' := by
  intro hx
  cases congrArg Traced.value hx

theorem ends_lift {a : Account α} {b : α} :
    Ends (liftM a) fs h b fs' ↔ h = a.history ∧ b = a.value ∧ fs' = fs :=
  leads_lift

/-! ## Computations that may fail -/

/-- A sequence stops at what is raised in its first part. -/
theorem ends_bind_run {x : Chain α} {f : α → Chain β} {out : Outcome β} :
    Ends (x >>= f).run fs h out fs' ↔
      (∃ e, Ends x.run fs h (.error e) fs' ∧ out = .error e) ∨
      ∃ a mid h₁ h₂, Ends x.run fs h₁ (.ok a) mid ∧ Ends (f a).run mid h₂ out fs' ∧
        h = h₁ ++ h₂ :=
  leads_bind_run

theorem ends_pure_run {a : α} {out : Outcome α} :
    Ends (pure a : Chain α).run fs h out fs' ↔ h = [] ∧ out = .ok a ∧ fs' = fs :=
  leads_pure_run

/-- What a value is made of, when there is one, has no part in how the computation ends. -/
theorem ends_bind_pure {x : Chain α} {f : α → β} {out : Outcome β} :
    Ends (x >>= fun a => pure (f a)).run fs h out fs' ↔
      ∃ inner, Ends x.run fs h inner fs' ∧ out = inner.map f := by
  rw [ends_bind_run]
  constructor
  · rintro (⟨e, hx, rfl⟩ | ⟨a, mid, h₁, h₂, hx, hpure, rfl⟩)
    · exact ⟨.error e, hx, rfl⟩
    · obtain ⟨rfl, rfl, rfl⟩ := ends_pure_run.mp hpure
      rw [List.append_nil]
      exact ⟨.ok a, hx, rfl⟩
  · rintro ⟨e | a, hx, rfl⟩
    · exact .inl ⟨e, hx, rfl⟩
    · exact .inr ⟨a, fs', h, [], hx, ends_pure_run.mpr ⟨rfl, rfl, rfl⟩, (List.append_nil h).symm⟩

theorem ends_throw_run {e : Raise} {out : Outcome α} :
    Ends (throw e : Chain α).run fs h out fs' ↔ h = [] ∧ out = .error e ∧ fs' = fs :=
  leads_throw_run

theorem ends_ofOutcome {outcome out : Outcome α} :
    Ends (ofOutcome outcome).run fs h out fs' ↔ h = [] ∧ out = outcome ∧ fs' = fs :=
  leads_outcome_run

theorem not_ends_failure_run {out : Outcome α} :
    ¬ Ends (liftM (failure : Run α) : Chain α).run fs h out fs' := by
  intro hx
  cases congrArg Traced.value hx

theorem ends_get_run {out : Outcome (List Frame)} :
    Ends (get : Chain (List Frame)).run fs h out fs' ↔ h = [] ∧ out = .ok fs ∧ fs' = fs :=
  ends_of_run rfl

theorem ends_lift_run {a : Account α} {out : Outcome α} :
    Ends (liftM a : Chain α).run fs h out fs' ↔ h = a.history ∧ out = .ok a.value ∧ fs' = fs :=
  leads_lift_run

/-! ## Sequences that begin with a basic operation -/

theorem ends_throw_bind {e : Raise} {f : β → Chain α} {out : Outcome α} :
    Ends (throw e >>= f).run fs h out fs' ↔ h = [] ∧ out = .error e ∧ fs' = fs :=
  ends_of_run rfl

theorem ends_get_bind {f : List Frame → Chain α} {out : Outcome α} :
    Ends (get >>= f).run fs h out fs' ↔ Ends (f fs).run fs h out fs' :=
  Iff.rfl

theorem ends_modify_bind {g : List Frame → List Frame} {f : Unit → Chain α} {out : Outcome α} :
    Ends (modify g >>= f).run fs h out fs' ↔ Ends (f ()).run (g fs) h out fs' :=
  Iff.rfl

theorem ends_set_bind {mid : List Frame} {f : Unit → Chain α} {out : Outcome α} :
    Ends (set mid >>= f).run fs h out fs' ↔ Ends (f ()).run mid h out fs' :=
  Iff.rfl

theorem ends_lift_bind {a : Account β} {f : β → Chain α} {out : Outcome α} :
    Ends (liftM a >>= f).run fs h out fs' ↔
      ∃ rest, Ends (f a.value).run fs rest out fs' ∧ h = a.history ++ rest :=
  leads_lift_bind

theorem ends_mark_bind {m : Mark} {f : Unit → Chain α} {out : Outcome α} :
    Ends (liftM (Account.mark m) >>= f).run fs h out fs' ↔
      ∃ rest, Ends (f ()).run fs rest out fs' ∧ h = .mark m :: rest :=
  ends_lift_bind

theorem ends_frames_bind {x : OnStack β} {f : β → Chain α} {out : Outcome α} :
    Ends (liftM x >>= f).run fs h out fs' ↔ ∃ a mid h₁ h₂,
      Ends x fs h₁ a mid ∧ Ends (f a).run mid h₂ out fs' ∧ h = h₁ ++ h₂ :=
  leads_state_bind

/-- The outcome of an operation is a value to who attempts it. -/
theorem ends_attempt_bind {x : Chain β} {f : Outcome β → Chain α} {out : Outcome α} :
    Ends (attempt x >>= f).run fs h out fs' ↔ ∃ inner mid h₁ h₂,
      Ends x.run fs h₁ inner mid ∧ Ends (f inner).run mid h₂ out fs' ∧ h = h₁ ++ h₂ :=
  ends_frames_bind

/-- Application code outside the chain ends in its outcome. -/
theorem ends_act {a : Act α} {out : Outcome α} :
    Ends (act a).run fs h out fs' ↔ h = (Account.act a).history ∧ out = a.outcome ∧ fs' = fs := by
  unfold act
  rw [ends_lift_bind]
  constructor
  · rintro ⟨rest, hout, rfl⟩
    obtain ⟨rfl, rfl, rfl⟩ := ends_ofOutcome.mp hout
    exact ⟨List.append_nil _, rfl, rfl⟩
  · rintro ⟨rfl, rfl, rfl⟩
    exact ⟨[], ends_ofOutcome.mpr ⟨rfl, rfl, rfl⟩, (List.append_nil _).symm⟩

/-! ## Steps on the frames -/

theorem ends_openFrame {command : Object} {a : Unit} : Ends (openFrame command) fs h a fs' ↔
    h = [.mark (.opened command)] ∧ a = () ∧ fs' = fs ++ [⟨command, []⟩] :=
  ends_of_run rfl

theorem ends_takeRootEvents {events : List Object} : Ends takeRootEvents fs h events fs' ↔
    h = [] ∧ events = rootEvents fs ∧ fs' = emptyRoot fs :=
  ends_of_run rfl

end Chain
end CommandEngine
