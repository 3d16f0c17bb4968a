import CommandEngine.Config
import CommandEngine.Pool
import Mathlib.Data.List.Basic

/-!
# Pools at work

`Pool` says what each operation does to a pool.  Who calls the operations, and when, is not its
business: calls come from anywhere, and every live runner takes messages from the one queue and
follows them.  A `Crew` is a pool together with the *hands* of its live runners.  A hand is empty
while its runner waits at the queue, and it holds a message from the moment the runner takes it out
until the runner has followed it; in between anything may happen, so a plan may change and a
shutdown may begin while a control message is in somebody's hand.

A **move** (`Move`) is a call from outside, or a runner's taking or following of a message; runners
are named by the place of their hand.  `Crew.run` makes moves one after the other.  Nothing is said
of who moves when: every list of moves that `run` accepts is an interleaving, and theorems about all
runs are theorems about all interleavings.  A host moves its runners in one of these orders, which
is shown in `CommandEngine.Proofs.Host.Simulation`.

Beside the pool a crew keeps the books of its run: the count that was accepted last, and the jobs
that were accepted, dequeued and finished, each in the order in which it happened.  No operation
looks at them.

**Every job is accounted for** (`Crew.Accounted`): a run leaves each accepted job in the queue, in a
hand, or finished, and there are as many hands as the pool counts runners.
-/
namespace CommandEngine

/-- What every step of a machine keeps, its runs keep. -/
theorem foldlM_keeps {σ μ : Type} {step : σ → μ → Option σ} {P : σ → Prop}
    (hkeep : ∀ {s s' m}, step s m = some s' → P s → P s') {s s' : σ} {moves : List μ}
    (h : moves.foldlM step s = some s') (hs : P s) : P s' := by
  induction moves generalizing s with
  | nil => exact Option.some.inj h ▸ hs
  | cons m moves ih =>
    rw [List.foldlM_cons] at h
    obtain ⟨d, hd, hrun⟩ := Option.bind_eq_some_iff.mp h
    exact ih hrun (hkeep hd hs)

namespace Message

variable {J : Type}

/-- The job of a message, if it is one. -/
@[simp] def job? : Message J → Option J
  | job j => some j
  | grow | poison => none

/-- The message is a grow order. -/
@[simp] def isGrow : Message J → Bool
  | grow => true
  | job _ | poison => false

/-- The message is a poison. -/
@[simp] def isPoison : Message J → Bool
  | poison => true
  | job _ | grow => false

end Message

/-! ## What the operations of a pool do -/

namespace Pool

variable {J : Type} {p p' : Pool J}

/-- The jobs in the queue. -/
def queuedJobs (p : Pool J) : List J := p.queue.filterMap Message.job?

/-- A count that is accepted is in range.  The plan stays as it is, or it is changed and some orders
are queued. -/
theorem setRunnerCount_inv {n : Nat} (h : p.setRunnerCount n = .ok p') :
    n ≠ 0 ∧ n ≤ p.maxRunnerCount ∧ p.shuttingDown = false ∧
      (n = p.plannedCount ∧ p' = p ∨ n ≠ p.plannedCount ∧ ∃ orders,
        p' = (({ p with plannedCount := n, awaiting := true } : Pool J).enqueue
          orders).checkConvergence.publish) := by
  unfold setRunnerCount at h
  split at h
  · cases h
  · rename_i hrange
    obtain ⟨hpos, hmax⟩ := not_or.mp hrange
    split at h
    · cases h
    · rename_i hopen
      refine ⟨hpos, Nat.not_lt.mp hmax, by simpa using hopen, ?_⟩
      split at h
      · rename_i heq
        exact .inl ⟨heq, (Except.ok.inj h).symm⟩
      · rename_i hne
        exact .inr ⟨hne, _, (Except.ok.inj h).symm⟩

/-- An accepted change of plan, the empty one included: one order for each runner that the new plan
has more or less. -/
theorem setRunnerCount_ok {n : Nat} (h : p.setRunnerCount n = .ok p') :
    p.shuttingDown = false ∧ p'.shuttingDown = false ∧ p'.plannedCount = n ∧
      p'.runnerCount = p.runnerCount ∧
      p'.queue = p.queue ++ List.replicate (n - p.plannedCount) .grow ++
        List.replicate (p.plannedCount - n) .poison := by
  unfold setRunnerCount at h
  split at h
  · cases h
  · split at h
    · cases h
    · rename_i hopen
      have hopen : p.shuttingDown = false := by simpa using hopen
      split at h
      · rename_i heq
        obtain rfl : p = p' := by simpa using h
        simp [hopen, heq]
      · obtain rfl := by simpa using h.symm
        refine ⟨hopen, by simp [publish, enqueue, hopen], by simp [publish, enqueue],
          by simp [publish, enqueue], ?_⟩
        rcases Nat.lt_or_ge p.plannedCount n with hlt | hge
        · simp [publish, enqueue, hlt, Nat.sub_eq_zero_of_le (Nat.le_of_lt hlt)]
        · simp [publish, enqueue, Nat.not_lt.mpr hge, Nat.sub_eq_zero_of_le hge]

theorem submit_ok {j : J} (h : p.submit j = .ok p') :
    p.shuttingDown = false ∧ p' = p.enqueue [.job j] := by
  unfold submit at h
  split at h
  · cases h
  · rename_i hopen
    exact ⟨by simpa using hopen, (Except.ok.inj h).symm⟩

theorem beginShutdown_of_shuttingDown (h : p.shuttingDown = true) : p.beginShutdown = p := by
  simp [beginShutdown, h]

/-- The first call of a shutdown: the plan is nobody, and there is poison for everyone. -/
theorem beginShutdown_of_open (h : p.shuttingDown = false) :
    p.beginShutdown.shuttingDown = true ∧ p.beginShutdown.plannedCount = 0 ∧
      p.beginShutdown.runnerCount = p.runnerCount ∧
      p.beginShutdown.queue =
        p.queue ++ List.replicate (max p.plannedCount p.runnerCount) .poison := by
  simp [beginShutdown, h, publish, enqueue]

theorem grow_of_lt (h : p.runnerCount < p.plannedCount) :
    p.grow.runnerCount = p.runnerCount + 1 ∧ p.grow.plannedCount = p.plannedCount ∧
      p.grow.shuttingDown = p.shuttingDown ∧ p.grow.started = p.started + 1 ∧
      p.grow.queue = p.queue := by
  simp [grow, h, publish]

theorem grow_of_le (h : p.plannedCount ≤ p.runnerCount) : p.grow = p := by
  simp [grow, Nat.not_lt.mpr h]

theorem poison_of_le (h : p.runnerCount ≤ p.plannedCount) : p.poison = (false, p) := by
  simp [poison, h]

theorem poison_of_lt (h : p.plannedCount < p.runnerCount) :
    p.poison.1 = true ∧ p.poison.2.runnerCount = p.runnerCount - 1 ∧
      p.poison.2.plannedCount = p.plannedCount ∧ p.poison.2.shuttingDown = p.shuttingDown ∧
      p.poison.2.queue = p.queue := by
  simp [poison, Nat.not_le.mpr h, publish]

/-! Only a grow order starts a runner. -/

theorem setRunnerCount_started {n : Nat} (h : p.setRunnerCount n = .ok p') :
    p'.started = p.started := by
  unfold setRunnerCount at h
  split at h
  · cases h
  · split at h
    · cases h
    · split at h
      · rw [Except.ok.inj h]
      · rw [← Except.ok.inj h]
        exact checkConvergence_started _

theorem beginShutdown_runnerCount : p.beginShutdown.runnerCount = p.runnerCount := by
  unfold beginShutdown
  split
  · rfl
  · exact checkConvergence_runnerCount _

theorem beginShutdown_started : p.beginShutdown.started = p.started := by
  unfold beginShutdown
  split
  · rfl
  · exact checkConvergence_started _

theorem poison_started : p.poison.2.started = p.started := by
  unfold poison
  split
  · rfl
  · exact checkConvergence_started _

theorem dequeue_some {m : Message J} (h : p.dequeue = some (m, p')) :
    p.queue = m :: p'.queue ∧ p' = { p with queue := p'.queue } := by
  unfold dequeue at h
  split at h
  · cases h
  · rename_i m' rest hq
    obtain ⟨rfl, rfl⟩ := by simpa using h
    exact ⟨hq, rfl⟩

end Pool

/-! ## Crews and their moves -/

/-- A pool, the hands of its live runners and the books of the run. -/
structure Crew (J : Type) where
  pool : Pool J
  /-- What each live runner holds, if it holds something. -/
  hands : List (Option (Message J))
  /-- The count that was accepted last; at first, the one the pool was started with. -/
  lastAccepted : Nat
  accepted : List J
  dequeued : List J
  finished : List J

/-- A call from outside, or a step of the runner whose hand is at a place. -/
inductive Move (J : Type) where
  | setRunnerCount (n : Nat)
  | submit (j : J)
  | beginShutdown
  /-- The runner takes the next message. -/
  | take (i : Nat)
  /-- The runner follows the message in its hand to the end. -/
  | follow (i : Nat)

namespace Crew

variable {J : Type}

/-- A new crew: every runner waits at the queue. -/
def start (config : HostConfig) : Except ConfigError (Crew J) := do
  config.validate
  return {
    pool := Pool.start config.maxRunnerCount config.runnerCount
    hands := List.replicate config.runnerCount none
    lastAccepted := config.runnerCount
    accepted := []
    dequeued := []
    finished := [] }

/-- The messages in the hands. -/
def held (c : Crew J) : List (Message J) := c.hands.filterMap id

/-- The jobs in the hands. -/
def heldJobs (c : Crew J) : List J := c.held.filterMap Message.job?

/-- The runner at a place follows a message. -/
def follow (c : Crew J) (i : Nat) : Message J → Crew J
  | .job j => { c with hands := c.hands.set i none, finished := c.finished ++ [j] }
  | .grow =>
    let pool := c.pool.grow
    let newcomers := if c.pool.started < pool.started then [none] else []
    { c with pool, hands := c.hands.set i none ++ newcomers }
  | .poison =>
    let (exits, pool) := c.pool.poison
    { c with pool, hands := if exits then c.hands.eraseIdx i else c.hands.set i none }

/-- Makes a move.  Calls may be refused, and then leave the crew as it is; a runner that has a
message takes none, and one that has none follows none. -/
def step (c : Crew J) : Move J → Option (Crew J)
  | .setRunnerCount n =>
    match c.pool.setRunnerCount n with
    | .ok pool => some { c with pool, lastAccepted := n }
    | .error _ => some c
  | .submit j =>
    match c.pool.submit j with
    | .ok pool => some { c with pool, accepted := c.accepted ++ [j] }
    | .error _ => some c
  | .beginShutdown => some { c with pool := c.pool.beginShutdown }
  | .take i =>
    match c.hands[i]?, c.pool.dequeue with
    | some none, some (m, pool) =>
      some { c with
        pool
        hands := c.hands.set i (some m)
        dequeued := c.dequeued ++ m.job?.toList }
    | _, _ => none
  | .follow i =>
    match c.hands[i]? with
    | some (some m) => some (c.follow i m)
    | _ => none

/-- Makes moves one after the other. -/
def run (c : Crew J) (moves : List (Move J)) : Option (Crew J) := moves.foldlM step c

/-! ## The steps of a crew, by what they do -/

/-- **What one move can do**: the accepted calls, the ways in which a message is taken and followed,
and nothing at all.  `l` and `r` are the hands to the left and to the right of the runner's. -/
inductive Step : Crew J → Crew J → Prop
  /-- A call is refused. -/
  | refused (c) : Step c c
  | replanned {c n pool} (h : c.pool.setRunnerCount n = .ok pool) :
      Step c { c with pool, lastAccepted := n }
  | accepted {c j pool} (h : c.pool.submit j = .ok pool) :
      Step c { c with pool, accepted := c.accepted ++ [j] }
  | shutdown (c) : Step c { c with pool := c.pool.beginShutdown }
  | taken {c l r m pool} (hhand : c.hands = l ++ none :: r)
      (hnext : c.pool.dequeue = some (m, pool)) :
      Step c { c with
        pool
        hands := l ++ some m :: r
        dequeued := c.dequeued ++ m.job?.toList }
  | finished {c l r j} (hhand : c.hands = l ++ some (.job j) :: r) :
      Step c { c with hands := l ++ none :: r, finished := c.finished ++ [j] }
  | grown {c l r} (hhand : c.hands = l ++ some .grow :: r)
      (hbelow : c.pool.runnerCount < c.pool.plannedCount) :
      Step c { c with pool := c.pool.grow, hands := l ++ none :: r ++ [none] }
  | growIgnored {c l r} (hhand : c.hands = l ++ some .grow :: r)
      (henough : c.pool.plannedCount ≤ c.pool.runnerCount) :
      Step c { c with hands := l ++ none :: r }
  | exited {c l r} (hhand : c.hands = l ++ some .poison :: r)
      (habove : c.pool.plannedCount < c.pool.runnerCount) :
      Step c { c with pool := c.pool.poison.2, hands := l ++ r }
  | poisonIgnored {c l r} (hhand : c.hands = l ++ some .poison :: r)
      (henough : c.pool.runnerCount ≤ c.pool.plannedCount) :
      Step c { c with hands := l ++ none :: r }

/-- The hands around a place, and what writing to the place and erasing it make of them. -/
theorem exists_split {α : Type} {xs : List α} {i : Nat} {x : α} (h : xs[i]? = some x) :
    ∃ l r, xs = l ++ x :: r ∧ (∀ y, xs.set i y = l ++ y :: r) ∧ xs.eraseIdx i = l ++ r := by
  obtain ⟨hi, hx⟩ := List.getElem?_eq_some_iff.mp h
  refine ⟨xs.take i, xs.drop (i + 1), ?_, fun y => ?_, List.eraseIdx_eq_take_drop_succ ..⟩
  · rw [← hx, List.getElem_cons_drop, List.take_append_drop]
  · rw [List.set_eq_take_append_cons_drop, if_pos hi]

theorem Step.of_follow {c : Crew J} {i : Nat} {m : Message J} (h : c.hands[i]? = some (some m)) :
    Step c (c.follow i m) := by
  obtain ⟨l, r, hhand, hset, herase⟩ := exists_split h
  cases m with
  | job j =>
    simp only [follow, hset]
    exact .finished hhand
  | grow =>
    rcases Nat.lt_or_ge c.pool.runnerCount c.pool.plannedCount with hbelow | henough
    · obtain ⟨-, -, -, hstarted, -⟩ := Pool.grow_of_lt hbelow
      simp only [follow, hset, hstarted, Nat.lt_succ_self, if_true]
      exact .grown hhand hbelow
    · simp only [follow, hset, Pool.grow_of_le henough, Nat.lt_irrefl, if_false, List.append_nil]
      exact .growIgnored hhand henough
  | poison =>
    rcases Nat.lt_or_ge c.pool.plannedCount c.pool.runnerCount with habove | henough
    · simp only [follow, herase, (Pool.poison_of_lt habove).1, if_true]
      exact .exited hhand habove
    · simp only [follow, hset, Pool.poison_of_le henough, Bool.false_eq_true, if_false]
      exact .poisonIgnored hhand henough

theorem Step.of_step {c c' : Crew J} {m : Move J} (h : c.step m = some c') : Step c c' := by
  cases m with
  | setRunnerCount n =>
    simp only [step] at h
    split at h
    · rename_i pool hpool
      exact Option.some.inj h ▸ .replanned hpool
    · exact Option.some.inj h ▸ .refused c
  | submit j =>
    simp only [step] at h
    split at h
    · rename_i pool hpool
      exact Option.some.inj h ▸ .accepted hpool
    · exact Option.some.inj h ▸ .refused c
  | beginShutdown => exact Option.some.inj h ▸ .shutdown c
  | take i =>
    simp only [step] at h
    split at h
    · rename_i m pool hempty hnext
      obtain ⟨l, r, hhand, hset, -⟩ := exists_split hempty
      rw [hset] at h
      exact Option.some.inj h ▸ .taken hhand hnext
    · cases h
  | follow i =>
    simp only [step] at h
    split at h
    · rename_i m hfull
      exact Option.some.inj h ▸ .of_follow hfull
    · cases h

/-- A shutdown that has begun stays. -/
theorem Step.shuttingDown {c c' : Crew J} (hs : Step c c') (hshut : c.pool.shuttingDown = true) :
    c'.pool.shuttingDown = true := by
  cases hs with
  | refused | finished | growIgnored | poisonIgnored => exact hshut
  | replanned h => exact nomatch hshut.symm.trans (Pool.setRunnerCount_ok h).1
  | accepted h => exact nomatch hshut.symm.trans (Pool.submit_ok h).1
  | shutdown =>
    rw [Pool.beginShutdown_of_shuttingDown hshut]
    exact hshut
  | taken hhand hnext =>
    rw [(Pool.dequeue_some hnext).2]
    exact hshut
  | grown hhand hbelow => exact (Pool.grow_of_lt hbelow).2.2.1.trans hshut
  | exited hhand habove => exact (Pool.poison_of_lt habove).2.2.2.1.trans hshut

/-- Without runners nobody does anything. -/
theorem Step.hands_of_nil {c c' : Crew J} (hs : Step c c') (hgone : c.hands = []) :
    c'.hands = [] := by
  have hnobody : ∀ {l r : List (Option (Message J))} {hand : Option (Message J)},
      c.hands = l ++ hand :: r → c'.hands = [] := by
    intro l r hand hhand
    rw [hgone] at hhand
    exact absurd hhand.symm (List.append_ne_nil_of_right_ne_nil l (List.cons_ne_nil hand r))
  cases hs with
  | refused | replanned | accepted | shutdown => exact hgone
  | taken hhand | finished hhand | grown hhand | growIgnored hhand | exited hhand
  | poisonIgnored hhand => exact hnobody hhand

/-! ## Runs -/

theorem run_cons (c : Crew J) (m : Move J) (moves : List (Move J)) :
    c.run (m :: moves) = (c.step m).bind (·.run moves) := rfl

theorem run_append (c : Crew J) (before after : List (Move J)) :
    c.run (before ++ after) = (c.run before).bind (·.run after) := by
  induction before generalizing c with
  | nil => rfl
  | cons m before ih =>
    rw [List.cons_append, run_cons, run_cons]
    cases c.step m with
    | none => rfl
    | some c' => exact ih c'

/-- **What every step keeps, every run keeps.** -/
theorem run_keeps {P : Crew J → Prop} (hkeep : ∀ {c c'}, Step c c' → P c → P c') {c c' : Crew J}
    {moves : List (Move J)} (h : c.run moves = some c') (hc : P c) : P c' :=
  foldlM_keeps (fun hs => hkeep (.of_step hs)) h hc

/-- Some moves lead from one state of a crew to the other. -/
def Reaches (c c' : Crew J) : Prop := ∃ moves, c.run moves = some c'

theorem Reaches.refl (c : Crew J) : c.Reaches c := ⟨[], rfl⟩

theorem Reaches.trans {c d e : Crew J} (h₁ : c.Reaches d) (h₂ : d.Reaches e) : c.Reaches e := by
  obtain ⟨before, hbefore⟩ := h₁
  obtain ⟨after, hafter⟩ := h₂
  exact ⟨before ++ after, by rw [run_append, hbefore]; exact hafter⟩

theorem Reaches.of_step {c c' : Crew J} {m : Move J} (h : c.step m = some c') : c.Reaches c' :=
  ⟨[m], by rw [run_cons, h]; rfl⟩

theorem start_ok {config : HostConfig} {c : Crew J} (h : start config = .ok c) :
    config.validate = .ok () ∧ c = {
      pool := Pool.start config.maxRunnerCount config.runnerCount
      hands := List.replicate config.runnerCount none
      lastAccepted := config.runnerCount
      accepted := []
      dequeued := []
      finished := [] } := by
  unfold start at h
  cases hv : config.validate with
  | error e => rw [hv] at h; cases h
  | ok u => rw [hv] at h; exact ⟨rfl, (Except.ok.inj h).symm⟩

/-! ## The books -/

/-- **Every job is accounted for.** -/
structure Accounted (c : Crew J) : Prop where
  /-- A hand for each runner that the pool counts. -/
  hands_length : c.hands.length = c.pool.runnerCount
  /-- Jobs leave the queue in the order in which they were accepted. -/
  accepted_eq : c.accepted = c.dequeued ++ c.pool.queuedJobs
  /-- What was dequeued is finished or in a hand. -/
  dequeued_perm : c.dequeued.Perm (c.finished ++ c.heldJobs)

theorem Accounted.of_start {config : HostConfig} {c : Crew J} (h : start config = .ok c) :
    c.Accounted := by
  obtain ⟨-, rfl⟩ := start_ok h
  exact ⟨by simp [Pool.start, Pool.publish], by simp [Pool.start, Pool.publish, Pool.queuedJobs],
    by simp [heldJobs, held]⟩

/-- A change that only puts orders into the queue leaves the jobs in it. -/
theorem queuedJobs_of_queue {p p' : Pool J} {orders : List (Message J)}
    (hq : p'.queue = p.queue ++ orders) (horders : orders.filterMap Message.job? = []) :
    p'.queuedJobs = p.queuedJobs := by
  rw [Pool.queuedJobs, hq, List.filterMap_append, horders, List.append_nil, Pool.queuedJobs]

theorem Accounted.step {c c' : Crew J} (hs : Step c c') (hc : c.Accounted) : c'.Accounted := by
  have hhands := hc.hands_length
  have hperm := hc.dequeued_perm
  cases hs with
  | refused => exact hc
  | replanned h =>
    obtain ⟨-, -, -, hcount, hq⟩ := Pool.setRunnerCount_ok h
    refine ⟨hhands.trans hcount.symm, ?_, hperm⟩
    rw [List.append_assoc] at hq
    exact hc.accepted_eq.trans (by rw [queuedJobs_of_queue hq (by simp)])
  | accepted h =>
    obtain ⟨-, rfl⟩ := Pool.submit_ok h
    refine ⟨hhands, ?_, hperm⟩
    simp [hc.accepted_eq, Pool.queuedJobs, Pool.enqueue, Message.job?]
  | shutdown =>
    cases hopen : c.pool.shuttingDown with
    | true => rw [Pool.beginShutdown_of_shuttingDown hopen]; exact hc
    | false =>
      obtain ⟨-, -, hcount, hq⟩ := Pool.beginShutdown_of_open hopen
      refine ⟨hhands.trans hcount.symm, ?_, hperm⟩
      exact hc.accepted_eq.trans (by rw [queuedJobs_of_queue hq (by simp)])
  | @taken l r m pool hhand hnext =>
    obtain ⟨hq, hpool⟩ := Pool.dequeue_some hnext
    refine ⟨?_, ?_, ?_⟩
    · rw [hpool, ← hhands, hhand]
      simp
    · rw [hc.accepted_eq, Pool.queuedJobs, hq, List.filterMap_cons]
      cases m <;> simp [Message.job?, Pool.queuedJobs]
    · rw [heldJobs, held, hhand] at hperm
      cases m with
      | job j =>
        have hcons := hperm.append_right [j]
        refine hcons.trans ?_
        simp only [heldJobs, held, List.filterMap_append, List.filterMap_cons, id, Message.job?]
        rw [List.append_assoc, List.append_assoc]
        exact ((List.perm_append_singleton j _).append_left _).append_left _
      | grow | poison => simpa [heldJobs, held, List.filterMap_cons] using hperm
  | @finished l r j hhand =>
    refine ⟨by rw [← hhands, hhand]; simp, hc.accepted_eq, hperm.trans ?_⟩
    simp only [heldJobs, held, hhand, List.filterMap_append, List.filterMap_cons, id, Message.job?]
    rw [List.append_assoc]
    exact List.perm_middle.append_left _
  | @grown l r hhand hbelow =>
    obtain ⟨hcount, -, -, -, hq⟩ := Pool.grow_of_lt hbelow
    refine ⟨by rw [hcount, ← hhands, hhand]; simp [Nat.add_assoc], ?_, ?_⟩
    · rw [hc.accepted_eq, Pool.queuedJobs, Pool.queuedJobs, hq]
    · simpa [heldJobs, held, hhand, List.filterMap_cons] using hperm
  | @growIgnored l r hhand henough =>
    refine ⟨by rw [← hhands, hhand]; simp, hc.accepted_eq, ?_⟩
    simpa [heldJobs, held, hhand, List.filterMap_cons] using hperm
  | @exited l r hhand habove =>
    obtain ⟨-, hcount, -, -, hq⟩ := Pool.poison_of_lt habove
    refine ⟨by rw [hcount, ← hhands, hhand]; simp, ?_, ?_⟩
    · rw [hc.accepted_eq, Pool.queuedJobs, Pool.queuedJobs, hq]
    · simpa [heldJobs, held, hhand, List.filterMap_cons] using hperm
  | @poisonIgnored l r hhand henough =>
    refine ⟨by rw [← hhands, hhand]; simp, hc.accepted_eq, ?_⟩
    simpa [heldJobs, held, hhand, List.filterMap_cons] using hperm

theorem Accounted.of_run {config : HostConfig} {c₀ c : Crew J} {moves : List (Move J)}
    (hstart : start config = .ok c₀) (hrun : c₀.run moves = some c) : c.Accounted :=
  run_keeps Accounted.step hrun (.of_start hstart)

end Crew
end CommandEngine
