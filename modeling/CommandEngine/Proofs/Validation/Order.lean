import CommandEngine.Proofs.Validation

/-!
# The order in which validators are called

A validation calls its validators one after the other, each in the state that the one before it
left, up to the first that does not return (`Calls`).  What a validator can do beside recording
messages is to ask for ambient values, so the call of a validator leaves one mark of a validator,
its own; the marks of a row of calls are then those of the first so many validators, in order and
without repetition (`Calls.validators`), and of all of them if all returned.

The handling validation is such a row and a verdict (`Judges`).  If a validator does not return, the
validation ends in what it raised, whatever was recorded before.  If all return, the verdict is on
the messages: an error among them makes the result a failure.
-/
namespace CommandEngine

/-- The call of a validator. -/
def Mark.isValidator : Mark → Bool
  | validator .. => true
  | _ => false

/-- The calls of validators in a history. -/
def validatorCalls (h : List Happening) : List Mark := (Chain.marks h).filter (·.isValidator)

theorem validatorCalls_append (h₁ h₂ : List Happening) :
    validatorCalls (h₁ ++ h₂) = validatorCalls h₁ ++ validatorCalls h₂ := by
  rw [validatorCalls, Chain.marks_append, List.filter_append]
  rfl

theorem validatorCalls_of_leaves {α : Type} {a : Account α}
    (ha : a.Leaves fun m => m.isValidator = false) : validatorCalls a.history = [] :=
  List.filter_eq_nil_iff.mpr fun m hm => Bool.eq_false_iff.mp (ha m hm)

namespace Validation

open Account

variable {D α β : Type} {registry : Registry D} {services : D} {stage : ValidationStage}
  {token : Token} {o : Object}

/-! ## Requests call no validator -/

/-- The computation calls no validator. -/
def Silent (x : Step α) : Prop := ∀ s, Leaves (fun m => m.isValidator = false) (x.run s)

theorem silent_lift {a : Account α} (ha : a.Leaves fun m => m.isValidator = false) :
    Silent (liftM a : Step α) := by
  intro s
  show Leaves _ (a >>= fun value => pure (value, s))
  exact ha.bind (leaves_pure _)

theorem silent_compositional : Compositional Silent where
  pure a := fun s => leaves_pure (a, s)
  get := fun s => leaves_pure (s, s)
  modify _ := fun s => leaves_pure ((), _)
  lift ha _ := silent_lift (ha.mono fun m hm => hm ▸ rfl)
  bind hx hf := by
    intro s
    rw [StateT.run_bind]
    exact (hx s).bind (hf _ _)

/-- A validator that was resolved leaves no mark of a call. -/
theorem silent_resolved {slot : Slot D (Validator D)} : Silent (do
    match ← Account.act (slot.resolve services) with
    | .error e => return .error e
    | .ok validator => (validator services o).interpret (answer registry services stage token)) := by
  refine silent_compositional.bind (silent_lift (leaves_act _)) fun validator => ?_
  cases validator with
  | error e => exact silent_compositional.pure _
  | ok validator => exact silent_compositional.interpret _

/-- The call of a validator leaves its mark, and that of no other. -/
theorem validatorCalls_call {slot : Slot D (Validator D)} {index : Nat} {s s' : ValidationState}
    {h : List Happening} {out : Outcome Unit}
    (hcall : (call registry services stage token o slot index).run s = ⟨h, out, s'⟩) :
    validatorCalls h = [.validator stage o.type.name index] := by
  have hcalls := validatorCalls_of_leaves
    (@silent_resolved D registry services stage token o slot s)
  rw [show h = ((call registry services stage token o slot index).run s).history from hcall ▸ rfl]
  show validatorCalls (.mark (.validator stage o.type.name index) :: _) = _
  exact congrArg (Mark.validator stage o.type.name index :: ·) hcalls

/-! ## A row of calls -/

/-- Validators are called one after the other, up to the first that does not return. -/
inductive Calls (registry : Registry D) (services : D) (stage : ValidationStage) (token : Token)
    (o : Object) : List (Slot D (Validator D) × Nat) → ValidationState → List Happening →
      Outcome Unit → ValidationState → Prop where
  | none (s : ValidationState) : Calls registry services stage token o [] s [] (.ok ()) s
  | next {slot : Slot D (Validator D)} {index : Nat} {rest : List (Slot D (Validator D) × Nat)}
    {s mid s' : ValidationState} {h₁ h₂ : List Happening} {out : Outcome Unit}
    (hcall : (call registry services stage token o slot index).run s = ⟨h₁, .ok (), mid⟩)
    (hrest : Calls registry services stage token o rest mid h₂ out s') :
    Calls registry services stage token o ((slot, index) :: rest) s (h₁ ++ h₂) out s'
  | stopped {slot : Slot D (Validator D)} {index : Nat} {rest : List (Slot D (Validator D) × Nat)}
    {s s' : ValidationState} {h : List Happening} {e : Raise}
    (hcall : (call registry services stage token o slot index).run s = ⟨h, .error e, s'⟩) :
    Calls registry services stage token o ((slot, index) :: rest) s h (.error e) s'

theorem callAll_of_error {slot : Slot D (Validator D)} {index : Nat}
    {rest : List (Slot D (Validator D) × Nat)} {s s' : ValidationState} {h : List Happening}
    {e : Raise}
    (hcall : (call registry services stage token o slot index).run s = ⟨h, .error e, s'⟩) :
    (callAll registry services stage token o ((slot, index) :: rest)).run s =
      ⟨h, .error e, s'⟩ := by
  rw [callAll, StateT.run_bind, hcall]
  exact Traced.ext (List.append_nil h) rfl

theorem callAll_of_ok {slot : Slot D (Validator D)} {index : Nat}
    {rest : List (Slot D (Validator D) × Nat)} {s mid : ValidationState} {h : List Happening}
    (hcall : (call registry services stage token o slot index).run s = ⟨h, .ok (), mid⟩) :
    (callAll registry services stage token o ((slot, index) :: rest)).run s =
      ⟨h ++ ((callAll registry services stage token o rest).run mid).history,
        ((callAll registry services stage token o rest).run mid).value⟩ := by
  rw [callAll, StateT.run_bind, hcall]
  rfl

theorem callAll_calls {slots : List (Slot D (Validator D) × Nat)} {s s' : ValidationState}
    {h : List Happening} {out : Outcome Unit}
    (hrun : (callAll registry services stage token o slots).run s = ⟨h, out, s'⟩) :
    Calls registry services stage token o slots s h out s' := by
  induction slots generalizing s h with
  | nil =>
    cases hrun
    exact .none _
  | cons slot rest ih =>
    rcases hcall : (call registry services stage token o slot.1 slot.2).run s with
      ⟨h₁, e | _, mid⟩
    · rw [callAll_of_error hcall] at hrun
      cases hrun
      exact .stopped hcall
    · rw [callAll_of_ok hcall] at hrun
      obtain ⟨rfl, hrest⟩ := Traced.mk.inj hrun
      exact .next hcall (ih (Traced.ext rfl hrest))

/-- The validators that were called are the first ones, and all of them if all returned. -/
theorem Calls.validators {slots : List (Slot D (Validator D) × Nat)} {s s' : ValidationState}
    {h : List Happening} {out : Outcome Unit}
    (hcalls : Calls registry services stage token o slots s h out s') :
    ∃ k, validatorCalls h = (slots.take k).map (fun slot => .validator stage o.type.name slot.2) ∧
      (out = .ok () → k = slots.length) := by
  induction hcalls with
  | none s => exact ⟨0, rfl, fun _ => rfl⟩
  | next hcall _ ih =>
    obtain ⟨k, hvalidators, hall⟩ := ih
    refine ⟨k + 1, ?_, fun hout => congrArg (· + 1) (hall hout)⟩
    rw [validatorCalls_append, validatorCalls_call hcall, hvalidators]
    rfl
  | stopped hcall => exact ⟨1, validatorCalls_call hcall, nofun⟩

/-- A row of calls leaves marks of the validation only, and keeps count of the errors. -/
theorem Calls.validates {slots : List (Slot D (Validator D) × Nat)} {s s' : ValidationState}
    {h : List Happening} {out : Outcome Unit}
    (hcalls : Calls registry services stage token o slots s h out s')
    (hs : s.collector.Counted) :
    (∀ m ∈ Chain.marks h, m.isValidating) ∧ s'.collector.Counted := by
  induction hcalls with
  | none s => exact ⟨nofun, hs⟩
  | @next slot index _ _ _ _ _ _ _ hcall _ ih =>
    obtain ⟨hmarks, hcounted⟩ := validates_call registry services stage token o slot index _ hs
    rw [hcall] at hmarks hcounted
    obtain ⟨hmarks', hcounted'⟩ := ih hcounted
    rw [Chain.marks_append, List.forall_mem_append]
    exact ⟨⟨hmarks, hmarks'⟩, hcounted'⟩
  | @stopped slot index _ _ _ _ _ hcall =>
    have hvalidates := validates_call registry services stage token o slot index _ hs
    rw [hcall] at hvalidates
    exact hvalidates

/-! ## The verdict -/

/-- What a handling validation comes to: what a validator raised, or else a result with all recorded
messages, which is a failure if one of them is an error. -/
inductive Judges (registry : Registry D) (services : D) (token : Token) (o : Object)
    (slots : List (Slot D (Validator D))) : List Happening → Outcome ValidationResult → Prop where
  | raised {h : List Happening} {e : Raise} {s : ValidationState}
    (hcalls : Calls registry services .handling token o slots.zipIdx start h (.error e) s) :
    Judges registry services token o slots h (.error e)
  | accepted {h : List Happening} {s : ValidationState}
    (hcalls : Calls registry services .handling token o slots.zipIdx start h (.ok ()) s)
    (hclean : ∀ m ∈ s.collector.messages, m.isError = false) :
    Judges registry services token o slots h (.ok ⟨s.collector.messages, true, none⟩)
  | rejected {h : List Happening} {s : ValidationState} {m : UserMessage}
    (hcalls : Calls registry services .handling token o slots.zipIdx start h (.ok ()) s)
    (hm : m ∈ s.collector.messages) (herror : m.isError = true) :
    Judges registry services token o slots
      (h ++ [.log (.validationFailed token .handling o.type.name
        (s.collector.messages.filter (·.isError)).length)])
      (.ok ⟨s.collector.messages, false, some token.text⟩)

/-- The result of messages that were counted. -/
theorem finish_eq {s : ValidationState} (hs : s.collector.Counted) :
    (finish token s = ⟨s.collector.messages, true, none⟩ ∧
      ∀ m ∈ s.collector.messages, m.isError = false) ∨
    (finish token s = ⟨s.collector.messages, false, some token.text⟩ ∧
      ∃ m ∈ s.collector.messages, m.isError = true) := by
  unfold Collector.Counted at hs
  by_cases hclean : s.collector.errorCount = 0
  · refine .inl ⟨by simp [finish, Collector.toResult, Collector.hasError, hclean], ?_⟩
    intro m hm
    exact Bool.eq_false_iff.mpr (List.countP_eq_zero.mp (hs ▸ hclean) m hm)
  · have hpos : 0 < s.collector.errorCount := Nat.pos_of_ne_zero hclean
    refine .inr ⟨by simp [finish, Collector.toResult, Collector.hasError, hclean, hpos], ?_⟩
    exact List.countP_pos_iff.mp (hs ▸ hpos)

/-- **The handling validation is a row of calls and a verdict.** -/
theorem handling_judges {d : Descriptor D} (hd : registry.require o = .ok d) :
    Judges registry services token o d.handlingValidators
      (handling registry services token o).run.history
      (handling registry services token o).run.value := by
  unfold handling
  rw [hd]
  dsimp only
  by_cases hnone : d.handlingValidators.isEmpty = true
  · have hcalls : Calls registry services .handling token o d.handlingValidators.zipIdx start []
        (.ok ()) start := by
      rw [List.isEmpty_iff.mp hnone]
      exact .none start
    rw [if_pos hnone]
    exact .accepted hcalls fun m hm => absurd hm List.not_mem_nil
  · rw [if_neg hnone]
    rcases hrun : StateT.run (callAll registry services .handling token o
      d.handlingValidators.zipIdx) start with ⟨h, e | _, s⟩
    · show Judges _ _ _ _ _ (h ++ [] ++ []) (.error e)
      rw [List.append_nil, List.append_nil]
      exact .raised (callAll_calls hrun)
    · have hcalls := callAll_calls hrun
      have hcounted := (hcalls.validates Collector.counted_empty).2
      show Judges _ _ _ _ _ (h ++ [] ++ ((logOutcome .handling o.type.name token
        (finish token s)).history ++ [] ++ [])) (.ok (finish token s))
      rw [List.append_nil, List.append_nil, List.append_nil]
      rcases finish_eq hcounted with ⟨hfinish, hclean⟩ | ⟨hfinish, m, hm, herror⟩
      · -- a success leaves no record
        rw [hfinish]
        show Judges _ _ _ _ _ (h ++ []) _
        rw [List.append_nil]
        exact .accepted hcalls hclean
      · rw [hfinish]
        exact .rejected hcalls hm herror

/-- The handling validation leaves marks of its own only, and its result is faithful. -/
theorem handling_validates (registry : Registry D) (services : D) (token : Token) (o : Object) :
    Leaves (fun m => m.isValidating) (handling registry services token o).run ∧
      ∀ r, (handling registry services token o).run.value = .ok r → Faithful token r := by
  cases hfound : registry.require o with
  | error e =>
    unfold handling
    rw [hfound]
    exact ⟨leaves_pure _, nofun⟩
  | ok d =>
    have hjudges : Judges registry services token o d.handlingValidators _ _ :=
      handling_judges hfound
    unfold Leaves
    generalize (handling registry services token o).run.history = h at hjudges ⊢
    generalize (handling registry services token o).run.value = out at hjudges ⊢
    cases hjudges with
    | raised hcalls => exact ⟨(hcalls.validates Collector.counted_empty).1, nofun⟩
    | @accepted _ s hcalls hclean =>
      refine ⟨(hcalls.validates Collector.counted_empty).1, ?_⟩
      rintro r ⟨⟩
      have hnone : s.collector.messages.any (·.isError) = false :=
        List.any_eq_false.mpr fun m hm => Bool.eq_false_iff.mp (hclean m hm)
      exact ⟨by rw [hnone]; rfl, nofun⟩
    | @rejected _ s m hcalls hm herror =>
      constructor
      · rw [Chain.marks_append, List.forall_mem_append]
        exact ⟨(hcalls.validates Collector.counted_empty).1, nofun⟩
      · rintro r ⟨⟩
        have hsome : s.collector.messages.any (·.isError) = true :=
          List.any_eq_true.mpr ⟨m, hm, herror⟩
        exact ⟨by rw [hsome]; rfl, fun _ => rfl⟩

end Validation
end CommandEngine
