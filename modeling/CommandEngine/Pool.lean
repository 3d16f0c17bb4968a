import CommandEngine.History

/-! # The pool of runners

A pool has live runners, a planned number of them, and one queue of messages that all runners
share: a job to run, an order to *grow* and an order, called *poison*, to exit.  A change of the
plan only puts orders into the queue.  Each order is judged when it is taken out, against the plan
of that moment: a grow order starts a runner only below the plan and a poison ends its runner only
above it, so orders left over from earlier plans do no harm.

After a change the pool awaits *convergence*.  It is reached, once per change at most, when the
number of live runners is the planned one.  A shutdown sets the plan to zero, refuses all further
work and leaves poison for every runner behind the work that was accepted.

The functions here say what each operation does to the pool; a pool is watched through its
*status*, published whenever something in it changed.
-/
namespace CommandEngine

/-- What a pool shows. -/
structure PoolStatus where
  runnerCount : Nat
  plannedCount : Nat
  convergences : Nat
  shuttingDown : Bool
  deriving DecidableEq, Repr, Inhabited

/-- A message to the runners. -/
inductive Message (J : Type) where
  | job (j : J)
  | grow
  | poison
  deriving DecidableEq, Repr, Inhabited

/-- The shared state of a pool whose jobs are of type `J`. -/
structure Pool (J : Type) where
  maxRunnerCount : Nat
  runnerCount : Nat
  plannedCount : Nat
  convergences : Nat
  shuttingDown : Bool
  awaiting : Bool
  /-- How many runners were ever started; the next one gets the number after it. -/
  started : Nat
  status : PoolStatus
  queue : List (Message J)
  deriving Inhabited

namespace Pool

variable {J : Type} (p : Pool J)

/-! ## Bookkeeping -/

/-- What there is to publish. -/
def current : PoolStatus := ⟨p.runnerCount, p.plannedCount, p.convergences, p.shuttingDown⟩

/-- Publishes the status. -/
def publish : Pool J := { p with status := p.current }

/-- Puts messages at the end of the queue. -/
def enqueue (messages : List (Message J)) : Pool J := { p with queue := p.queue ++ messages }

/-- Counts a convergence when an awaited one is there. -/
def checkConvergence : Pool J :=
  if p.awaiting ∧ p.runnerCount = p.plannedCount then
    { p with awaiting := false, convergences := p.convergences + 1 }
  else p

@[simp] theorem checkConvergence_maxRunnerCount :
    p.checkConvergence.maxRunnerCount = p.maxRunnerCount := by
  unfold checkConvergence; split <;> rfl

@[simp] theorem checkConvergence_runnerCount :
    p.checkConvergence.runnerCount = p.runnerCount := by
  unfold checkConvergence; split <;> rfl

@[simp] theorem checkConvergence_plannedCount :
    p.checkConvergence.plannedCount = p.plannedCount := by
  unfold checkConvergence; split <;> rfl

@[simp] theorem checkConvergence_shuttingDown :
    p.checkConvergence.shuttingDown = p.shuttingDown := by
  unfold checkConvergence; split <;> rfl

@[simp] theorem checkConvergence_started : p.checkConvergence.started = p.started := by
  unfold checkConvergence; split <;> rfl

@[simp] theorem checkConvergence_queue : p.checkConvergence.queue = p.queue := by
  unfold checkConvergence; split <;> rfl

/-! ## Operations -/

/-- A new pool with its first runners. -/
def start (maxRunnerCount runnerCount : Nat) : Pool J :=
  publish ⟨maxRunnerCount, runnerCount, runnerCount, 0, false, false, runnerCount, default, []⟩

/-- Changes the plan. -/
def setRunnerCount (n : Nat) : Except EngineError (Pool J) :=
  if n = 0 ∨ n > p.maxRunnerCount then .error (.invalidRunnerCount n p.maxRunnerCount)
  else if p.shuttingDown then .error .hostShuttingDown
  else if n = p.plannedCount then .ok p
  else
    let orders : List (Message J) :=
      if n > p.plannedCount then List.replicate (n - p.plannedCount) .grow
      else List.replicate (p.plannedCount - n) .poison
    .ok (({ p with plannedCount := n, awaiting := true }.enqueue orders).checkConvergence.publish)

/-- Accepts a job. -/
def submit (j : J) : Except EngineError (Pool J) :=
  if p.shuttingDown then .error .hostShuttingDown else .ok (p.enqueue [.job j])

/-- Begins the shutdown; later calls do nothing. -/
def beginShutdown : Pool J :=
  if p.shuttingDown then p
  else
    let poisons := List.replicate (max p.plannedCount p.runnerCount) Message.poison
    ({ p with shuttingDown := true, plannedCount := 0, awaiting := true }.enqueue
      poisons).checkConvergence.publish

/-- Follows a grow order. -/
def grow : Pool J :=
  if p.runnerCount < p.plannedCount then
    ({ p with runnerCount := p.runnerCount + 1,
              started := p.started + 1 } : Pool J).checkConvergence.publish
  else p

/-- Follows a poison order: is the runner that took it to exit, and the pool without it. -/
def poison : Bool × Pool J :=
  if p.runnerCount ≤ p.plannedCount then (false, p)
  else
    (true, ({ p with runnerCount := p.runnerCount - 1 } : Pool J).checkConvergence.publish)

/-- The next message and the pool without it. -/
def dequeue : Option (Message J × Pool J) :=
  match p.queue with
  | [] => none
  | m :: rest => some (m, { p with queue := rest })

/-! ## Records -/

/-- The record of a convergence between two states. -/
def convergenceRecords (before after : Pool J) : List LogEvent :=
  if before.convergences < after.convergences then
    [.converged after.runnerCount after.convergences]
  else []

/-- The records of a change of plan. -/
def changeRecords (n : Nat) : List LogEvent :=
  match p.setRunnerCount n with
  | .error .hostShuttingDown => [.countChangeRejected n]
  | .error _ => []
  | .ok after =>
    if n = p.plannedCount then []
    else .countChanged p.plannedCount n p.runnerCount :: p.convergenceRecords after

/-- The records of beginning a shutdown. -/
def shutdownRecords : List LogEvent :=
  if p.shuttingDown then []
  else .shuttingDown p.runnerCount :: p.convergenceRecords p.beginShutdown

end Pool
end CommandEngine
