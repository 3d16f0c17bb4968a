/-! # Computations with a history

A `Traced ε α` is a value together with what happened on the way to it, in order.  Nothing that
happens has an answer, so a computation is settled by its inputs, and whoever watches it may play
its history back later and stop between any two entries.
-/
namespace CommandEngine

/-- A value and the history of obtaining it. -/
structure Traced (ε α : Type) where
  history : List ε
  value : α

namespace Traced

variable {ε α β : Type}

instance : Monad (Traced ε) where
  pure a := ⟨[], a⟩
  bind x f := ⟨x.history ++ (f x.value).history, (f x.value).value⟩

@[simp] theorem history_pure (a : α) : (pure a : Traced ε α).history = [] := rfl

@[simp] theorem value_pure (a : α) : (pure a : Traced ε α).value = a := rfl

@[simp] theorem history_bind (x : Traced ε α) (f : α → Traced ε β) :
    (x >>= f).history = x.history ++ (f x.value).history := rfl

@[simp] theorem value_bind (x : Traced ε α) (f : α → Traced ε β) :
    (x >>= f).value = (f x.value).value := rfl

@[ext] theorem ext {x y : Traced ε α} (hh : x.history = y.history) (hv : x.value = y.value) :
    x = y := by
  cases x; cases y; cases hh; cases hv; rfl

instance : LawfulMonad (Traced ε) := LawfulMonad.mk' (Traced ε)
  (by intro α x; ext <;> simp [Functor.map])
  (by intro α β x f; ext <;> simp)
  (by intro α β γ x f g; ext <;> simp)

@[simp] theorem history_map (f : α → β) (x : Traced ε α) : (f <$> x).history = x.history :=
  List.append_nil _

@[simp] theorem value_map (f : α → β) (x : Traced ε α) : (f <$> x).value = f x.value := rfl

/-- One thing happens. -/
def tell (e : ε) : Traced ε Unit := ⟨[e], ()⟩

/-- The same computation with its history in other words. -/
def mapHistory {δ : Type} (f : ε → δ) (x : Traced ε α) : Traced δ α := ⟨x.history.map f, x.value⟩

end Traced
end CommandEngine
