import CommandEngine.Proofs.Crew.Basic

/-!
# Every change of plan is covered by orders

A resize does not wait for its orders, and the orders do not know which resize they came from.  What
ties the size of a crew to its plan is therefore an inequality in each direction.  The *outstanding*
messages are those in the queue and those in somebody's hand; among them there are always enough
grow orders to reach the plan from below and enough poison to reach it from above
(`Crew.Covered`).  An order that is ignored is not needed: a grow order is ignored only at or above
the plan, and there the first inequality asks for none.

So when no order is outstanding the two counts agree, and the plan is the count that was accepted
last, or nobody once the shutdown has begun (`Crew.plan_covered`).
-/
namespace CommandEngine
namespace Crew

variable {J : Type}

/-- The messages that are not followed yet. -/
def outstanding (c : Crew J) : List (Message J) := c.held ++ c.pool.queue

/-- The outstanding grow orders. -/
def grows (c : Crew J) : Nat := c.outstanding.countP (·.isGrow)

/-- The outstanding poison. -/
def poisons (c : Crew J) : Nat := c.outstanding.countP (·.isPoison)

/-- **The plan is within reach of the outstanding orders.** -/
structure Covered (c : Crew J) : Prop where
  upward : c.pool.plannedCount ≤ c.pool.runnerCount + c.grows
  downward : c.pool.runnerCount ≤ c.pool.plannedCount + c.poisons
  plan : c.pool.plannedCount = if c.pool.shuttingDown then 0 else c.lastAccepted

/-! ## Outstanding messages come and go -/

/-- New messages behind the queue are outstanding, in addition to what was. -/
theorem counts_of_queue {c d : Crew J} {messages : List (Message J)}
    (hhands : d.hands = c.hands) (hq : d.pool.queue = c.pool.queue ++ messages) :
    d.grows = c.grows + messages.countP (·.isGrow) ∧
      d.poisons = c.poisons + messages.countP (·.isPoison) := by
  have hout : d.outstanding = c.outstanding ++ messages := by
    rw [outstanding, outstanding, held, hhands, hq, List.append_assoc, held]
  rw [grows, grows, poisons, poisons, hout, List.countP_append, List.countP_append]
  exact ⟨rfl, rfl⟩

/-- A message that goes from the queue into a hand is outstanding as before. -/
theorem counts_of_taken {c d : Crew J} {l r : List (Option (Message J))} {m : Message J}
    (hhand : c.hands = l ++ none :: r) (hhand' : d.hands = l ++ some m :: r)
    (hq : c.pool.queue = m :: d.pool.queue) : d.grows = c.grows ∧ d.poisons = c.poisons := by
  have hheld : c.held = l.filterMap id ++ r.filterMap id := by simp [held, hhand]
  have hheld' : d.held = l.filterMap id ++ m :: r.filterMap id := by simp [held, hhand']
  have hperm : d.outstanding.Perm c.outstanding := by
    rw [outstanding, outstanding, hheld, hheld', hq, List.append_assoc, List.append_assoc]
    exact List.perm_middle.symm.append_left _
  exact ⟨hperm.countP_eq _, hperm.countP_eq _⟩

/-- A followed message is outstanding no more. -/
theorem counts_of_followed {c d : Crew J} {l r : List (Option (Message J))} {m : Message J}
    (hhand : c.hands = l ++ some m :: r) (hheld' : d.held = l.filterMap id ++ r.filterMap id)
    (hq : d.pool.queue = c.pool.queue) :
    c.grows = d.grows + (if m.isGrow then 1 else 0) ∧
      c.poisons = d.poisons + (if m.isPoison then 1 else 0) := by
  have hheld : c.held = l.filterMap id ++ m :: r.filterMap id := by simp [held, hhand]
  have hperm : c.outstanding.Perm (m :: d.outstanding) := by
    rw [outstanding, outstanding, hheld, hheld', hq, List.append_assoc, List.append_assoc]
    exact List.perm_middle
  exact ⟨(hperm.countP_eq _).trans List.countP_cons, (hperm.countP_eq _).trans List.countP_cons⟩

/-! ## The invariant -/

theorem Covered.of_start {config : HostConfig} {c : Crew J} (h : start config = .ok c) :
    c.Covered := by
  obtain ⟨-, rfl⟩ := start_ok h
  exact ⟨Nat.le_add_right _ _, Nat.le_add_right _ _, rfl⟩

theorem Covered.step {c c' : Crew J} (hs : Step c c') (hc : c.Covered) : c'.Covered := by
  obtain ⟨hup, hdown, hplan⟩ := hc
  cases hs with
  | refused => exact ⟨hup, hdown, hplan⟩
  | @replanned n pool h =>
    obtain ⟨-, hopen, hplan', hcount, hq⟩ := Pool.setRunnerCount_ok h
    rw [List.append_assoc] at hq
    obtain ⟨hgrows, hpoisons⟩ :=
      counts_of_queue (c := c) (d := { c with pool, lastAccepted := n }) rfl hq
    simp only [List.countP_append, List.countP_replicate, Message.isGrow, Message.isPoison,
      if_true, Bool.false_eq_true, if_false] at hgrows hpoisons
    refine ⟨?_, ?_, by simp [hopen, hplan']⟩
    · rw [hgrows, hplan', hcount]; omega
    · rw [hpoisons, hplan', hcount]; omega
  | @accepted j pool h =>
    obtain ⟨-, rfl⟩ := Pool.submit_ok h
    obtain ⟨hgrows, hpoisons⟩ := counts_of_queue (c := c)
      (d := { c with pool := c.pool.enqueue [.job j], accepted := c.accepted ++ [j] }) rfl rfl
    refine ⟨?_, ?_, hplan⟩
    · rw [hgrows]; simpa [Pool.enqueue] using hup
    · rw [hpoisons]; simpa [Pool.enqueue] using hdown
  | shutdown =>
    cases hopen : c.pool.shuttingDown with
    | true => rw [Pool.beginShutdown_of_shuttingDown hopen]; exact ⟨hup, hdown, hplan⟩
    | false =>
      obtain ⟨hshut, hplan', hcount, hq⟩ := Pool.beginShutdown_of_open hopen
      obtain ⟨-, hpoisons⟩ :=
        counts_of_queue (c := c) (d := { c with pool := c.pool.beginShutdown }) rfl hq
      simp only [List.countP_replicate, Message.isPoison, if_true] at hpoisons
      refine ⟨by simp [hplan'], ?_, by simp [hshut, hplan']⟩
      rw [hpoisons, hplan', hcount]
      omega
  | @taken l r m pool hhand hnext =>
    obtain ⟨hq, hpool⟩ := Pool.dequeue_some hnext
    obtain ⟨hgrows, hpoisons⟩ := counts_of_taken (c := c)
      (d := { c with pool, hands := l ++ some m :: r, dequeued := c.dequeued ++ m.job?.toList })
      hhand rfl hq
    refine ⟨?_, ?_, ?_⟩
    · rw [hgrows, hpool]; exact hup
    · rw [hpoisons, hpool]; exact hdown
    · rw [hpool]; exact hplan
  | @finished l r j hhand =>
    obtain ⟨hgrows, hpoisons⟩ := counts_of_followed (c := c)
      (d := { c with hands := l ++ none :: r, finished := c.finished ++ [j] }) hhand
      (by simp [held]) rfl
    simp only [Message.isGrow, Message.isPoison, Bool.false_eq_true, if_false, Nat.add_zero]
      at hgrows hpoisons
    rw [hgrows] at hup
    rw [hpoisons] at hdown
    exact ⟨hup, hdown, hplan⟩
  | @grown l r hhand hbelow =>
    obtain ⟨hcount, hplan', hshut, -, hq⟩ := Pool.grow_of_lt hbelow
    obtain ⟨hgrows, -⟩ := counts_of_followed (c := c)
      (d := { c with pool := c.pool.grow, hands := l ++ none :: r ++ [none] }) hhand
      (by simp [held]) hq
    simp only [Message.isGrow, if_true] at hgrows
    refine ⟨?_, ?_, by rw [hplan', hplan, hshut]⟩
    · rw [hplan', hcount]; omega
    · rw [hplan', hcount]; omega
  | @growIgnored l r hhand henough =>
    obtain ⟨-, hpoisons⟩ := counts_of_followed (c := c)
      (d := { c with hands := l ++ none :: r }) hhand (by simp [held]) rfl
    simp only [Message.isPoison, Bool.false_eq_true, if_false, Nat.add_zero] at hpoisons
    rw [hpoisons] at hdown
    exact ⟨Nat.le_add_right_of_le henough, hdown, hplan⟩
  | @exited l r hhand habove =>
    obtain ⟨-, hcount, hplan', hshut, hq⟩ := Pool.poison_of_lt habove
    obtain ⟨-, hpoisons⟩ := counts_of_followed (c := c)
      (d := { c with pool := c.pool.poison.2, hands := l ++ r }) hhand (by simp [held]) hq
    simp only [Message.isPoison, if_true] at hpoisons
    refine ⟨?_, ?_, by rw [hplan', hplan, hshut]⟩
    · rw [hplan', hcount]; omega
    · rw [hplan', hcount]; omega
  | @poisonIgnored l r hhand henough =>
    obtain ⟨hgrows, -⟩ := counts_of_followed (c := c)
      (d := { c with hands := l ++ none :: r }) hhand (by simp [held]) rfl
    simp only [Message.isGrow, Bool.false_eq_true, if_false, Nat.add_zero] at hgrows
    rw [hgrows] at hup
    exact ⟨hup, Nat.le_add_right_of_le henough, hplan⟩

theorem Covered.of_run {config : HostConfig} {c₀ c : Crew J} {moves : List (Move J)}
    (hstart : start config = .ok c₀) (hrun : c₀.run moves = some c) : c.Covered :=
  run_keeps Covered.step hrun (.of_start hstart)

/-! ## The main result -/

/-- **Every resize is covered, and a crew without orders has the size that was planned.**  This
holds at every point of every interleaving; the orders in somebody's hand count as well. -/
theorem plan_covered {config : HostConfig} {c₀ c : Crew J} {moves : List (Move J)}
    (hstart : start config = .ok c₀) (hrun : c₀.run moves = some c) :
    c.pool.plannedCount - c.pool.runnerCount ≤ c.grows ∧
      c.pool.runnerCount - c.pool.plannedCount ≤ c.poisons ∧
      (c.grows = 0 → c.poisons = 0 → c.pool.runnerCount = c.pool.plannedCount) ∧
      c.pool.plannedCount = if c.pool.shuttingDown then 0 else c.lastAccepted := by
  obtain ⟨hup, hdown, hplan⟩ := Covered.of_run hstart hrun
  refine ⟨by omega, by omega, ?_, hplan⟩
  intro hg hp
  omega

/-- Two runners, a plan of one and then of three: one poison is in a hand, two grow orders are
queued, and nobody has reacted yet. -/
theorem plan_covered_opposite_resizes :
    ∃ c₀ c : Crew Unit, start ⟨2, "local", 5⟩ = .ok c₀ ∧
      c₀.run [.setRunnerCount 1, .take 0, .setRunnerCount 3] = some c ∧
      (c.pool.plannedCount - c.pool.runnerCount ≤ c.grows ∧
        c.pool.runnerCount - c.pool.plannedCount ≤ c.poisons ∧
        (c.grows = 0 → c.poisons = 0 → c.pool.runnerCount = c.pool.plannedCount) ∧
        c.pool.plannedCount = if c.pool.shuttingDown then 0 else c.lastAccepted) ∧
      c.grows = 2 ∧ c.poisons = 1 := by
  have h := @plan_covered Unit ⟨2, "local", 5⟩ _ _ [.setRunnerCount 1, .take 0, .setRunnerCount 3]
    rfl rfl
  exact ⟨_, _, rfl, rfl, h, rfl, rfl⟩

end Crew
end CommandEngine
