import CommandEngine.Proofs.Chain.Ends
import CommandEngine.Proofs.Records

/-!
# What a validation does

Validators are programs, and all that they can do are the requests of a validation.  None of these
has to do with a call chain, so a validation leaves marks of its own only; and every message goes
through the collector, so the errors are counted as they are recorded.  Both are invariants of the
requests, and an induction over the program gives them for every validator.

So the flag of a result can be read off its messages (`Faithful`): it is a failure exactly if one of
them is an error, and a failed result has the token as its key to the log.
-/
namespace CommandEngine

/-- A mark of a validation. -/
def Mark.isValidating : Mark → Bool
  | validator .. | ambientRequested => true
  | _ => false

namespace Account

variable {α β : Type} {P Q : Mark → Prop}

/-- All marks that the computation leaves are such that `P`. -/
def Leaves (P : Mark → Prop) (a : Account α) : Prop := ∀ m ∈ Chain.marks a.history, P m

theorem leaves_pure (a : α) : Leaves P (pure a : Account α) := fun _ hm => nomatch hm

theorem Leaves.bind {x : Account α} {f : α → Account β} (hx : x.Leaves P)
    (hf : (f x.value).Leaves P) : Leaves P (x >>= f) := by
  intro m hm
  rw [Traced.history_bind, Chain.marks_append, List.mem_append] at hm
  exact hm.elim (hx m) (hf m)

theorem Leaves.mono {x : Account α} (hx : x.Leaves P) (hPQ : ∀ m, P m → Q m) : x.Leaves Q :=
  fun m hm => hPQ m (hx m hm)

theorem leaves_mark {m : Mark} (hm : P m) : Leaves P (mark m) := by
  intro m' hm'
  rw [List.mem_singleton.mp hm']
  exact hm

theorem leaves_log (e : LogEvent) : Leaves P (log e) := fun _ hm => nomatch hm

theorem leaves_sign (s : Sign) : Leaves P (Traced.tell (.sign s)) := fun _ hm => nomatch hm

theorem leaves_streamed (event : Object) : Leaves P (Traced.tell (.streamed event)) :=
  fun _ hm => nomatch hm

theorem leaves_act (a : Act α) : Leaves P (act a) :=
  fun m hm => absurd (Chain.mem_marks.mp hm) (mark_not_mem_act a m)

end Account

namespace Validation

open Account

variable {α β : Type}

/-! ## What is true of the steps of a validation -/

/-- A property of the steps of validators that sequences inherit.  A step may look at the state, and
change it as long as the errors are counted; what it leaves in the history are signs, and the mark of
asking for ambient values, but no record of an error and no event. -/
structure Compositional (P : ∀ {α : Type}, Step α → Prop) : Prop where
  pure : ∀ {α : Type} (a : α), P (Pure.pure a : Step α)
  get : P (get : Step ValidationState)
  modify : ∀ {f : ValidationState → ValidationState},
    (∀ s, s.collector.Counted → (f s).collector.Counted) → P (modify f : Step Unit)
  lift : ∀ {α : Type} {a : Account α}, (a.Leaves fun m => m = .ambientRequested) → a.Plain →
    P (liftM a : Step α)
  bind : ∀ {α β : Type} {x : Step α} {f : α → Step β}, P x → (∀ a, P (f a)) → P (x >>= f)

namespace Compositional

variable {D : Type} {registry : Registry D} {services : D} {stage : ValidationStage} {token : Token}
  {P : ∀ {α : Type}, Step α → Prop} (hP : Compositional P)
include hP

/-- The ambient values are beside the collector. -/
theorem ambientValues : P (Validation.ambientValues registry services) := by
  refine hP.bind hP.get fun s => ?_
  cases s.ambient with
  | some values => exact hP.pure _
  | none =>
    refine hP.bind (hP.lift (leaves_mark rfl) (plain_mark _)) fun _ => ?_
    cases registry.provider with
    | some provider =>
      refine hP.bind (hP.lift (leaves_act _) (plain_act (provider services))) fun made => ?_
      cases made with
      | ok values =>
        refine hP.bind (hP.modify ?_) fun _ => hP.pure _
        exact fun _ hs => hs
      | error e => exact hP.pure _
    | none =>
      dsimp only
      rw [pure_bind]
      refine hP.bind (hP.modify ?_) fun _ => hP.pure _
      exact fun _ hs => hs

theorem answer (q : ValidationRequest) :
    P (Validation.answer registry services stage token q) := by
  cases q with
  | record m => exact hP.modify fun _ hs => hs.add m
  | ambientValues => exact hP.ambientValues
  | view => exact hP.bind hP.get fun _ => hP.pure _
  | sign s => exact hP.lift (leaves_sign s) (plain_sign s)

/-- A validator does no more than its requests do. -/
theorem interpret (p : ValidationProgram α) :
    P (p.interpret (Validation.answer registry services stage token)) := by
  induction p with
  | done outcome => exact hP.pure outcome
  | ask q next ih => exact hP.bind (hP.answer q) ih

end Compositional

/-! ## Marks of the validation, and the count of the errors -/

/-- The computation leaves marks of the validation only, and keeps count of the errors. -/
def Validates (x : Step α) : Prop := ∀ s, s.collector.Counted →
  Leaves (fun m => m.isValidating) (x.run s) ∧ (x.run s).value.2.collector.Counted

theorem validates_pure (a : α) : Validates (pure a) := fun s hs => ⟨leaves_pure (a, s), hs⟩

theorem validates_lift {a : Account α} (ha : a.Leaves fun m => m.isValidating) :
    Validates (liftM a : Step α) := by
  intro s hs
  refine ⟨?_, hs⟩
  show Leaves _ (a >>= fun value => pure (value, s))
  exact ha.bind (leaves_pure _)

theorem Validates.bind {x : Step α} {f : α → Step β} (hx : Validates x)
    (hf : ∀ a, Validates (f a)) : Validates (x >>= f) := by
  intro s hs
  obtain ⟨hmarks, hcounted⟩ := hx s hs
  obtain ⟨hmarks', hcounted'⟩ := hf (x.run s).value.1 (x.run s).value.2 hcounted
  rw [StateT.run_bind]
  exact ⟨hmarks.bind hmarks', hcounted'⟩

theorem validates_compositional : Compositional Validates where
  pure := validates_pure
  get := fun s hs => ⟨leaves_pure (s, s), hs⟩
  modify hf := fun s hs => ⟨leaves_pure ((), _), hf s hs⟩
  lift ha _ := validates_lift (ha.mono fun _ hm => hm ▸ rfl)
  bind := Validates.bind

section Stage

variable {D : Type} (registry : Registry D) (services : D) (stage : ValidationStage) (token : Token)

theorem validates_call (o : Object) (slot : Slot D (Validator D)) (index : Nat) :
    Validates (call registry services stage token o slot index) := by
  refine (validates_lift (leaves_mark rfl)).bind fun _ => ?_
  refine (validates_lift (leaves_act _)).bind fun validator => ?_
  cases validator with
  | error e => exact validates_pure _
  | ok validator => exact validates_compositional.interpret _

end Stage

/-! ## The handling validation -/

/-- A result of the handling validation: its flag says whether a message is an error, and if so, the
token is the key to the log. -/
structure Faithful (token : Token) (r : ValidationResult) : Prop where
  success : r.success = !r.messages.any (·.isError)
  logKey : r.success = false → r.logKey = some token.text

end Validation
end CommandEngine
