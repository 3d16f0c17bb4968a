import CommandEngine.Proofs.Token.Parallel

/-!
# Validations with two tokens

A validation passes its token to the context of its validators, to its records and, if an error
was recorded, to its result.  It never looks at it, and validators that do not look at it either
make the same requests in both validations: they record the same messages, end in the same way,
and are stopped at the same place.  By induction over the program of a validator
(`twin_interpret`) and over the row of the validators, the two validations match.
-/
namespace CommandEngine
namespace Validation

open Account

section Twins
variable (t t' : Token) {α β : Type}

/-- Begun in one state, the steps match and leave one state. -/
def Twin (V : α → α → Prop) (x y : Step α) : Prop :=
  ∀ s, Matches t t' (fun p q => V p.1 q.1 ∧ q.2 = p.2) (x.run s) (y.run s)

variable {t t'} {V : α → α → Prop} {W : β → β → Prop}

theorem twin_pure {a a' : α} (ha : V a a') : Twin t t' V (pure a) (pure a') :=
  fun _ => matches_pure ⟨ha, rfl⟩

theorem Twin.bind {x y : Step α} {f g : α → Step β} (hxy : Twin t t' V x y)
    (hfg : ∀ a a', V a a' → Twin t t' W (f a) (g a')) : Twin t t' W (x >>= f) (y >>= g) := by
  intro s
  rw [StateT.run_bind, StateT.run_bind]
  refine (hxy s).bind fun p q hpq => ?_
  rw [hpq.2]
  exact hfg _ _ hpq.1 p.2

/-- Most steps give the same value. -/
theorem Twin.bind_eq {x y : Step α} {f g : α → Step β} (hxy : Twin t t' Eq x y)
    (hfg : ∀ a, Twin t t' W (f a) (g a)) : Twin t t' W (x >>= f) (y >>= g) :=
  hxy.bind fun a _ ha => ha ▸ hfg a

theorem twin_get : Twin t t' Eq (get : Step ValidationState) get :=
  fun _ => matches_pure ⟨rfl, rfl⟩

theorem twin_modify (f : ValidationState → ValidationState) :
    Twin t t' Eq (modify f : Step Unit) (modify f) := fun _ => matches_pure ⟨rfl, rfl⟩

theorem twin_lift {x y : Account α} (hxy : Matches t t' V x y) :
    Twin t t' V (liftM x : Step α) (liftM y) := by
  intro s
  have hlift (x : Account α) : (liftM x : Step α).run s = x >>= fun a => pure (a, s) := rfl
  rw [hlift, hlift]
  exact hxy.bind fun _ _ ha => matches_pure ⟨ha, rfl⟩

/-- Code that does the same in both runs is followed by what goes on with its value. -/
theorem twin_lift_bind {x : Account α} {f g : α → Step β} (hx : Matches t t' Eq x x)
    (hfg : Twin t t' W (f x.value) (g x.value)) :
    Twin t t' W (liftM x >>= f) (liftM x >>= g) := by
  intro s
  have hlift (f : α → Step β) :
      (liftM x >>= f : Step β).run s = x >>= fun a => (f a).run s := by
    rw [StateT.run_bind]
    exact (bind_assoc _ _ _).trans (congrArg (x >>= ·) (funext fun a => pure_bind _ _))
  rw [hlift, hlift]
  exact hx.bind_value (hfg s)

theorem twin_mark {m : Mark} (hm : m.hook? = none) :
    Twin t t' Eq (liftM (mark m) : Step Unit) (liftM (mark m)) :=
  twin_lift (matches_mark (.own hm))

end Twins

/-! ## Requests and validators -/

variable {D : Type} {registry : Registry D} {services : D} {t t' : Token} {o : Object}
  {stage : ValidationStage}

/-- The provider of ambient values is not told the token. -/
theorem twin_ambientValues : Twin t t' Eq (ambientValues registry services)
    (ambientValues registry services) := by
  refine twin_get.bind_eq fun s => ?_
  cases s.ambient with
  | some values => exact twin_pure rfl
  | none =>
    refine Twin.bind_eq (twin_mark rfl) fun _ => ?_
    cases registry.provider with
    | some provider =>
      refine (twin_lift (matches_act (provider services))).bind_eq fun made => ?_
      cases made with
      | ok values => exact (twin_modify _).bind_eq fun _ => twin_pure rfl
      | error e => exact twin_pure rfl
    | none =>
      dsimp only
      rw [pure_bind]
      exact (twin_modify _).bind_eq fun _ => twin_pure rfl

/-- The replies to a request are alike. -/
theorem twin_answer (q : ValidationRequest) : Twin t t' (ValidationRequest.Alike t t' q)
    (answer registry services stage t q) (answer registry services stage t' q) := by
  cases q with
  | record m => exact twin_modify _
  | ambientValues => exact twin_ambientValues
  | view => exact twin_get.bind_eq fun s => twin_pure ⟨rfl, rfl⟩
  | sign s => exact twin_lift (matches_sign s)

/-- Programs that agree are validators that do the same. -/
theorem twin_interpret {α : Type} {p p' : ValidationProgram α}
    (hp : Program.Agrees t t' (ValidationRequest.Alike t t') p p') :
    Twin t t' (OutcomeAlike t t' Eq) (p.interpret (answer registry services stage t))
      (p'.interpret (answer registry services stage t')) := by
  induction hp with
  | done houtcome => exact twin_pure houtcome
  | @ask q next next' _ ih => exact (twin_answer q).bind ih

theorem twin_call {slot : Slot D (Validator D)} {index : Nat} (hslot : slot.All services
    fun validator => ∀ o, ValidationProgram.Blind t t' (validator services o)) :
    Twin t t' (OutcomeAlike t t' Eq) (call registry services stage t o slot index)
      (call registry services stage t' o slot index) := by
  refine Twin.bind_eq (twin_mark rfl) fun _ => ?_
  refine twin_lift_bind (matches_act _) ?_
  -- the validator is one that the slot gives
  cases hresolved : (act (slot.resolve services)).value with
  | error e => exact twin_pure (outcomeAlike_refl _)
  | ok validator => exact twin_interpret (hslot validator hresolved o)

/-! ## Rows of validators -/

theorem containedText_eq {e e' : Raise} (he : e.Alike t t' e') :
    containedText e' = containedText e := by
  cases he with
  | failure hf => exact hf.report
  | panic p => rfl

section Rows
variable {slots : List (Slot D (Validator D) × Nat)} (hslots : ∀ slot ∈ slots,
  slot.1.All services fun validator => ∀ o, ValidationProgram.Blind t t' (validator services o))
include hslots

theorem twin_callAll : Twin t t' (OutcomeAlike t t' Eq)
    (callAll registry services stage t o slots) (callAll registry services stage t' o slots) := by
  induction slots with
  | nil => exact twin_pure (.ok rfl)
  | cons slot rest ih =>
    rw [List.forall_mem_cons] at hslots
    refine Twin.bind (twin_call hslots.1) fun outcome outcome' houtcome => ?_
    cases houtcome with
    | ok _ => exact ih hslots.2
    | error he => exact twin_pure (.error he)

theorem twin_callIncoming : Twin t t' Eq (callIncoming registry services t o slots)
    (callIncoming registry services t' o slots) := by
  induction slots with
  | nil => exact twin_pure rfl
  | cons slot rest ih =>
    rw [List.forall_mem_cons] at hslots
    refine Twin.bind (twin_call hslots.1) fun outcome outcome' houtcome => ?_
    cases houtcome with
    | ok _ => exact ih hslots.2
    | error he =>
      refine Twin.bind_eq (twin_lift (matches_log ?_)) fun _ => twin_modify _
      refine ⟨rfl, rfl, ?_, .inr ⟨rfl, rfl⟩⟩
      simp only [LogEvent.fields, containedText_eq he]

end Rows

/-! ## Results -/

/-- The key is the only part of a result that comes from the token. -/
theorem alike_finish {s s' : ValidationState} (hs : s' = s) :
    (finish t s).Alike t t' (finish t' s') := by
  rw [hs]
  unfold finish Collector.toResult
  refine ⟨rfl, rfl, ?_⟩
  exact related_ite .some .none

theorem matches_logOutcome {typeName : String} {r r' : ValidationResult} (hr : r.Alike t t' r') :
    Matches t t' Eq (logOutcome stage typeName t r) (logOutcome stage typeName t' r') := by
  unfold logOutcome
  rw [hr.success]
  refine related_ite (matches_pure rfl) (matches_log ⟨rfl, rfl, ?_, .inr ⟨rfl, rfl⟩⟩)
  simp only [LogEvent.fields, hr.errors]

theorem mem_of_require {d : Descriptor D} (hfound : registry.require o = .ok d) :
    d ∈ registry.descriptors := by
  unfold Registry.require at hfound
  split at hfound
  · rename_i d' hfind
    cases hfound
    exact Registry.mem_of_descriptorOf? hfind
  · cases hfound

/-- A computation that cannot fail, among those that may. -/
theorem matches_lift_bind_run {α β : Type} {V : α → α → Prop} {W : β → β → Prop} {x y : Account α}
    {f g : α → ExceptT Raise Account β} (hxy : Matches t t' V x y)
    (hfg : ∀ a a', V a a' → Matches t t' (OutcomeAlike t t' W) (f a).run (g a').run) :
    Matches t t' (OutcomeAlike t t' W) (liftM x >>= f).run (liftM y >>= g).run := by
  show Matches t t' _ (ExceptT.lift x >>= f).run (ExceptT.lift y >>= g).run
  rw [ExceptT.run_bind_lift, ExceptT.run_bind_lift]
  exact hxy.bind hfg

section Stages
variable (hblind : registry.Blind t t' services)
include hblind

/-- **Incoming validations with two tokens match.** -/
theorem matches_incoming (o : Object) : Matches t t' (ValidationResult.Alike t t')
    (incoming registry services t o) (incoming registry services t' o) := by
  unfold incoming
  cases hfind : registry.descriptorOf? o with
  | none =>
    refine Matches.bind (matches_log ⟨rfl, rfl, rfl, .inr ⟨rfl, rfl⟩⟩) fun _ _ _ => ?_
    exact Matches.bind (twin_modify _ start) fun p q hpq => matches_pure (alike_finish hpq.2)
  | some d =>
    have hslots := hblind.incoming d (Registry.mem_of_descriptorOf? hfind)
    have hrow := @twin_callIncoming D registry services t t' o d.incomingValidators.zipIdx
      fun slot hslot => hslots _ (List.fst_mem_of_mem_zipIdx hslot)
    refine Matches.bind (hrow start) fun p q hpq => ?_
    have hresult : (finish t p.2).Alike t t' (finish t' q.2) := alike_finish hpq.2
    exact (matches_logOutcome hresult).bind fun _ _ _ => matches_pure hresult

/-- **Handling validations with two tokens match.** -/
theorem matches_handling (o : Object) :
    Matches t t' (OutcomeAlike t t' (ValidationResult.Alike t t'))
      (handling registry services t o).run (handling registry services t' o).run := by
  unfold handling
  cases hfound : registry.require o with
  | error e => exact matches_pure (.error (.failure (.same e)))
  | ok d =>
    dsimp only
    by_cases hnone : d.handlingValidators.isEmpty = true
    · rw [if_pos hnone, if_pos hnone]
      exact matches_pure (ExceptAlike.ok ValidationResult.alike_ok)
    · rw [if_neg hnone, if_neg hnone]
      have hslots := hblind.handling d (mem_of_require hfound)
      have hrow := @twin_callAll D registry services t t' o .handling d.handlingValidators.zipIdx
        fun slot hslot => hslots _ (List.fst_mem_of_mem_zipIdx hslot)
      refine matches_lift_bind_run (hrow start) fun p q hpq => ?_
      obtain ⟨outcome, s⟩ := p
      obtain ⟨outcome', s'⟩ := q
      obtain ⟨houtcome, hs⟩ := hpq
      cases houtcome with
      | error he => exact matches_pure (ExceptAlike.error he)
      | ok _ =>
        have hresult : (finish t s).Alike t t' (finish t' s') := alike_finish hs
        exact matches_lift_bind_run (matches_logOutcome hresult) fun _ _ _ =>
          matches_pure (ExceptAlike.ok hresult)

end Stages
end Validation
end CommandEngine
