import CommandEngine.History

/-! # Application code as programs

A handler is application code.  The engine knows nothing of it but the requests it makes of its
context and the outcome it ends in, so a handler is a *program* over an interface: either it is
done, or it makes a request and goes on in a way that depends on the reply.  A reply may itself be
the outcome of an operation, a failure or a panic included; sequencing with `>>=` passes these on,
and `attempt` lets a program look at them.
-/
namespace CommandEngine

/-- The requests that can be made, and what each is answered with. -/
structure Interface where
  Request : Type
  Reply : Request → Type

/-- A program over an interface. -/
inductive Program (I : Interface) (α : Type) : Type where
  | done (outcome : Outcome α)
  | ask (request : I.Request) (next : I.Reply request → Program I α)

namespace Program

variable {I : Interface} {α β : Type}

protected def bind : Program I α → (α → Program I β) → Program I β
  | done (.ok a), f => f a
  | done (.error e), _ => done (.error e)
  | ask request next, f => ask request fun reply => (next reply).bind f

instance : Monad (Program I) where
  pure a := done (.ok a)
  bind := Program.bind

/-- Ends in a failure or a panic. -/
def raise (e : Raise) : Program I α := done (.error e)

/-- Runs a program and goes on with its outcome, whatever it is. -/
def attempt : Program I α → (Outcome α → Program I β) → Program I β
  | done outcome, f => f outcome
  | ask request next, f => ask request fun reply => (next reply).attempt f

/-- Makes a request and ends in the reply. -/
def request (q : I.Request) : Program I (I.Reply q) := ask q fun reply => done (.ok reply)

/-- Answers the requests of a program one after the other. -/
def interpret {m : Type → Type} [Monad m] (answer : (q : I.Request) → m (I.Reply q)) :
    Program I α → m (Outcome α)
  | done outcome => pure outcome
  | ask request next => do
    let reply ← answer request
    (next reply).interpret answer

/-! ## Small laws -/

@[simp] theorem pure_def (a : α) : (pure a : Program I α) = done (.ok a) := rfl

@[simp] theorem bind_ok (a : α) (f : α → Program I β) :
    (done (.ok a) : Program I α) >>= f = f a := rfl

@[simp] theorem bind_error (e : Raise) (f : α → Program I β) :
    (done (.error e) : Program I α) >>= f = done (.error e) := rfl

@[simp] theorem bind_ask (q : I.Request) (next : I.Reply q → Program I α) (f : α → Program I β) :
    (ask q next) >>= f = ask q fun reply => next reply >>= f := rfl

instance : LawfulMonad (Program I) := LawfulMonad.mk' (Program I)
  (by
    intro α x
    change Program.bind x (fun a => done (.ok a)) = x
    induction x with
    | done outcome => cases outcome <;> rfl
    | ask q next ih => exact congrArg (ask q) (funext ih))
  (by intros; rfl)
  (by
    intro α β γ x f g
    change Program.bind (Program.bind x f) g = Program.bind x (fun a => Program.bind (f a) g)
    induction x with
    | done outcome => cases outcome <;> rfl
    | ask q next ih => exact congrArg (ask q) (funext ih))

/-- Sequencing is a special case of looking at the outcome. -/
theorem bind_eq_attempt (x : Program I α) (f : α → Program I β) :
    x >>= f = x.attempt fun
      | .ok a => f a
      | .error e => done (.error e) := by
  change Program.bind x f = _
  induction x with
  | done outcome => cases outcome <;> rfl
  | ask q next ih => exact congrArg (ask q) (funext ih)

end Program
end CommandEngine
