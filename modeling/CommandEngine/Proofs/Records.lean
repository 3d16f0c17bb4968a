import CommandEngine.History

/-!
# Records of errors, and streamed events

Whoever operates the engine learns of a failure from a record of level ERROR.  The records of a
history are read off it entry by entry (`errors`), so those of a sequence are those of its parts, in
order.  A computation is `Calm` if it makes none.  Application code makes no records at all, and of
its own accord the engine makes few, so most of what follows is about computations that are calm.

The events that the caller of a job gets are read off a history in the same way (`streamed`).
Application code streams none, and neither do the steps of the engine but for the sink of a job: a
computation that is calm and streams nothing is `Plain`.
-/
namespace CommandEngine

/-- The record of an error that an entry is. -/
def Happening.error? (entry : Happening) : Option LogEvent :=
  entry.log?.filter (·.level == .error)

/-- The records of errors in a history. -/
def errors (h : List Happening) : List LogEvent := h.filterMap Happening.error?

@[simp] theorem errors_nil : errors [] = [] := rfl

@[simp] theorem errors_append (h₁ h₂ : List Happening) :
    errors (h₁ ++ h₂) = errors h₁ ++ errors h₂ :=
  List.filterMap_append

theorem errors_eq_nil {h : List Happening} : errors h = [] ↔ ∀ entry ∈ h, entry.error? = none :=
  List.filterMap_eq_nil_iff

/-- The event that an entry streams. -/
def Happening.streamed? : Happening → Option Object
  | streamed event => some event
  | _ => none

/-- The events that are streamed in a history, in order. -/
def streamed (h : List Happening) : List Object := h.filterMap Happening.streamed?

@[simp] theorem streamed_nil : streamed [] = [] := rfl

@[simp] theorem streamed_append (h₁ h₂ : List Happening) :
    streamed (h₁ ++ h₂) = streamed h₁ ++ streamed h₂ :=
  List.filterMap_append

/-- The record of a dispatch whose failure or panic was contained. -/
def LogEvent.isContained : LogEvent → Bool
  | dispatchFailed .. | eventHandlerPanicked .. => true
  | _ => false

namespace Account

variable {α β : Type}

/-- The computation makes no record of an error. -/
def Calm (a : Account α) : Prop := errors a.history = []

theorem calm_pure (a : α) : (pure a : Account α).Calm := rfl

theorem Calm.bind {x : Account α} {f : α → Account β} (hx : x.Calm) (hf : (f x.value).Calm) :
    (x >>= f).Calm := by
  unfold Calm at *
  rw [Traced.history_bind, errors_append, hx, hf]
  rfl

theorem calm_mark (m : Mark) : (mark m).Calm := rfl

theorem calm_sign (s : Sign) : Calm (Traced.tell (.sign s)) := rfl

theorem calm_streamed (event : Object) : Calm (Traced.tell (.streamed event)) := rfl

theorem errors_signs (signs : List Sign) : errors (signs.map .sign) = [] := by
  rw [errors_eq_nil]
  intro entry hentry
  obtain ⟨_, -, rfl⟩ := List.mem_map.mp hentry
  rfl

theorem calm_act (a : Act α) : (act a).Calm := errors_signs a.signs

theorem calm_notice (n : Notice) : (notice n).Calm := errors_signs n.signs

/-- The computation makes no record of an error and streams no event. -/
structure Plain (a : Account α) : Prop where
  calm : a.Calm
  unheard : streamed a.history = []

theorem plain_pure (a : α) : (pure a : Account α).Plain := ⟨calm_pure a, rfl⟩

theorem Plain.bind {x : Account α} {f : α → Account β} (hx : x.Plain) (hf : (f x.value).Plain) :
    (x >>= f).Plain := by
  refine ⟨hx.calm.bind hf.calm, ?_⟩
  rw [Traced.history_bind, streamed_append, hx.unheard, hf.unheard]
  rfl

theorem plain_mark (m : Mark) : (mark m).Plain := ⟨calm_mark m, rfl⟩

theorem plain_sign (s : Sign) : Plain (Traced.tell (.sign s)) := ⟨calm_sign s, rfl⟩

theorem streamed_signs (signs : List Sign) : streamed (signs.map .sign) = [] := by
  refine List.filterMap_eq_nil_iff.mpr fun entry hentry => ?_
  obtain ⟨_, -, rfl⟩ := List.mem_map.mp hentry
  rfl

theorem plain_act (a : Act α) : (act a).Plain := ⟨calm_act a, streamed_signs a.signs⟩

theorem plain_notice (n : Notice) : (notice n).Plain := ⟨calm_notice n, streamed_signs n.signs⟩

end Account
end CommandEngine
