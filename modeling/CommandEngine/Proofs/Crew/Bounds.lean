import CommandEngine.Proofs.Crew.Basic

/-!
# The bounds of a crew

An order may be followed long after the plan that it was made for, by any runner, in any order
relative to other orders.  What keeps a crew within bounds is that an order counts for nothing by
itself: a grow order starts a runner only below the plan of that moment, and poison ends one only
above it.  A plan is at least one and at most the maximum, so there is no way up from the maximum
and no way down from a single runner (`Crew.Bounded`), until the shutdown sets the plan to zero.
From then on nobody starts (`Crew.Step.started_of_plan`).
-/
namespace CommandEngine

/-! ## No operation changes the maximum -/

namespace Pool

variable {J : Type} {p p' : Pool J}

theorem setRunnerCount_maxRunnerCount {n : Nat} (h : p.setRunnerCount n = .ok p') :
    p'.maxRunnerCount = p.maxRunnerCount := by
  obtain ⟨-, -, -, ⟨-, rfl⟩ | ⟨-, orders, rfl⟩⟩ := setRunnerCount_inv h
  · rfl
  · exact checkConvergence_maxRunnerCount _

theorem beginShutdown_maxRunnerCount : p.beginShutdown.maxRunnerCount = p.maxRunnerCount := by
  unfold beginShutdown
  split
  · rfl
  · exact checkConvergence_maxRunnerCount _

theorem grow_maxRunnerCount : p.grow.maxRunnerCount = p.maxRunnerCount := by
  unfold grow
  split
  · exact checkConvergence_maxRunnerCount _
  · rfl

theorem poison_maxRunnerCount : p.poison.2.maxRunnerCount = p.maxRunnerCount := by
  unfold poison
  split
  · rfl
  · exact checkConvergence_maxRunnerCount _

end Pool

namespace Crew

variable {J : Type} {c c' : Crew J} {max : Nat}

/-- **The size and the plan are in range**, and before the shutdown neither is zero. -/
structure Bounded (max : Nat) (c : Crew J) : Prop where
  maximum : c.pool.maxRunnerCount = max
  plan_le : c.pool.plannedCount ≤ max
  size_le : c.pool.runnerCount ≤ max
  pos_of_open : c.pool.shuttingDown = false → 1 ≤ c.pool.plannedCount ∧ 1 ≤ c.pool.runnerCount

theorem Bounded.of_start {config : HostConfig} (h : start config = .ok c) :
    c.Bounded config.maxRunnerCount := by
  obtain ⟨hvalid, rfl⟩ := start_ok h
  unfold HostConfig.validate at hvalid
  split at hvalid
  · cases hvalid
  · split at hvalid
    · cases hvalid
    · rename_i hrange
      obtain ⟨hpos, hle⟩ := not_or.mp hrange
      have hpos : 1 ≤ config.runnerCount := Nat.one_le_iff_ne_zero.mpr hpos
      have hle : config.runnerCount ≤ config.maxRunnerCount := Nat.not_lt.mp hle
      exact ⟨rfl, hle, hle, fun _ => ⟨hpos, hpos⟩⟩

theorem Bounded.step (hs : Step c c') (hb : c.Bounded max) : c'.Bounded max := by
  obtain ⟨hmax, hplan, hsize, hpos⟩ := hb
  cases hs with
  | refused | finished | growIgnored | poisonIgnored => exact ⟨hmax, hplan, hsize, hpos⟩
  | @replanned n pool h =>
    obtain ⟨hne, hle, hopen, -⟩ := Pool.setRunnerCount_inv h
    obtain ⟨-, -, hplan', hcount, -⟩ := Pool.setRunnerCount_ok h
    refine ⟨(Pool.setRunnerCount_maxRunnerCount h).trans hmax, ?_, hcount ▸ hsize, fun _ => ?_⟩
    · rw [hplan', ← hmax]
      exact hle
    · rw [hplan', hcount]
      exact ⟨Nat.one_le_iff_ne_zero.mpr hne, (hpos hopen).2⟩
  | accepted h =>
    obtain ⟨-, rfl⟩ := Pool.submit_ok h
    exact ⟨hmax, hplan, hsize, hpos⟩
  | shutdown =>
    cases hopen : c.pool.shuttingDown with
    | true =>
      rw [Pool.beginShutdown_of_shuttingDown hopen]
      exact ⟨hmax, hplan, hsize, hpos⟩
    | false =>
      obtain ⟨hshut, hplan', hcount, -⟩ := Pool.beginShutdown_of_open hopen
      refine ⟨Pool.beginShutdown_maxRunnerCount.trans hmax, hplan' ▸ Nat.zero_le _,
        hcount ▸ hsize, fun hclosed => ?_⟩
      exact nomatch hclosed.symm.trans hshut
  | taken hhand hnext =>
    rw [(Pool.dequeue_some hnext).2]
    exact ⟨hmax, hplan, hsize, hpos⟩
  | grown hhand hbelow =>
    -- a runner starts below the plan, so the size stays at or below it
    obtain ⟨hcount, hplan', hshut, -, -⟩ := Pool.grow_of_lt hbelow
    refine ⟨Pool.grow_maxRunnerCount.trans hmax, hplan' ▸ hplan, ?_, fun hopen => ?_⟩
    · rw [hcount]
      exact Nat.le_trans hbelow hplan
    · rw [hplan', hcount]
      exact ⟨(hpos (hshut ▸ hopen)).1, Nat.le_add_left 1 _⟩
  | exited hhand habove =>
    -- a runner ends above the plan, so the size stays at or above it
    obtain ⟨-, hcount, hplan', hshut, -⟩ := Pool.poison_of_lt habove
    refine ⟨Pool.poison_maxRunnerCount.trans hmax, hplan' ▸ hplan, ?_, fun hopen => ?_⟩
    · rw [hcount]
      exact Nat.le_trans (Nat.sub_le _ _) hsize
    · have hplanned := (hpos (hshut ▸ hopen)).1
      rw [hplan', hcount]
      exact ⟨hplanned, Nat.le_sub_one_of_lt (Nat.lt_of_le_of_lt hplanned habove)⟩

/-- **Nobody starts when the plan is zero.** -/
theorem Step.started_of_plan (hs : Step c c') (hplan : c.pool.plannedCount = 0) :
    c'.pool.started = c.pool.started := by
  cases hs with
  | refused | finished | growIgnored | poisonIgnored => rfl
  | replanned h => exact Pool.setRunnerCount_started h
  | accepted h =>
    rw [(Pool.submit_ok h).2]
    rfl
  | shutdown => exact Pool.beginShutdown_started
  | taken hhand hnext => rw [(Pool.dequeue_some hnext).2]
  | grown hhand hbelow =>
    rw [hplan] at hbelow
    cases hbelow
  | exited => exact Pool.poison_started

end Crew
end CommandEngine
