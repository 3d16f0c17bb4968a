import CommandEngine.Proofs.Crew.Basic

/-!
# One convergence for each change of plan

A single flag says that a convergence is awaited, and five operations set it, clear it and look at
it.  They keep it to one meaning (`Pool.UpToDate`): between operations it is set exactly while the
number of live runners is not the planned one.  So nothing but the two counts decides when a
convergence is counted (`Pool.Recounted`): after an operation they are equal, and before it they
were not, or the operation changed the plan.

Each counted convergence uses up a change of plan that came before it.  The books need no list of
the changes for that: a change that is still open is one that the flag tells of, and the number of
convergences with the open change added never exceeds that of the changes
(`Crew.convergences_add_awaiting_le`).
-/
namespace CommandEngine

namespace Pool

variable {J : Type} {p p' : Pool J} {changed : Bool}

/-- A convergence is awaited exactly while the counts differ, and what is shown is what there
is. -/
structure UpToDate (p : Pool J) : Prop where
  awaiting_iff : p.awaiting = true ↔ p.runnerCount ≠ p.plannedCount
  status_eq : p.status = p.current

/-- What an operation does to the count of convergences; `changed` tells whether it changed the
plan. -/
structure Recounted (p : Pool J) (changed : Bool) (p' : Pool J) : Prop where
  upToDate : p'.UpToDate
  /-- Only a change of plan takes counts apart. -/
  opened : p'.runnerCount ≠ p'.plannedCount →
    p.runnerCount ≠ p.plannedCount ∨ changed = true
  convergences : p'.convergences = p.convergences +
    if p'.runnerCount = p'.plannedCount ∧ (p.runnerCount ≠ p.plannedCount ∨ changed = true)
    then 1 else 0

theorem upToDate_start (maxRunnerCount runnerCount : Nat) :
    (start maxRunnerCount runnerCount : Pool J).UpToDate :=
  ⟨by simp [start, publish], rfl⟩

/-- An operation that leaves the counts, the flag and the status alone. -/
theorem Recounted.of_kept (hp : p.UpToDate) (hawaiting : p'.awaiting = p.awaiting)
    (hstatus : p'.status = p.status) (hcurrent : p'.current = p.current) :
    Recounted p false p' := by
  obtain ⟨hcount, hplan, hconvergences, -⟩ := PoolStatus.mk.inj hcurrent
  refine ⟨⟨?_, ?_⟩, fun hdiffer => .inl (by rwa [← hcount, ← hplan]), ?_⟩
  · rw [hawaiting, hcount, hplan]
    exact hp.awaiting_iff
  · rw [hstatus, hcurrent]
    exact hp.status_eq
  · rw [if_neg, hconvergences, Nat.add_zero]
    rintro ⟨hequal, hdiffered | hchanged⟩
    · exact hdiffered (by rw [← hcount, ← hplan, hequal])
    · exact Bool.false_ne_true hchanged

/-- An operation that sets or finds the flag, looks for the convergence and publishes. -/
theorem Recounted.of_check {q : Pool J} (hawaiting : q.awaiting = true)
    (hconvergences : q.convergences = p.convergences)
    (hopen : p.runnerCount ≠ p.plannedCount ∨ changed = true) :
    Recounted p changed q.checkConvergence.publish := by
  by_cases hequal : q.runnerCount = q.plannedCount
  · have hcheck : q.checkConvergence =
        { q with awaiting := false, convergences := q.convergences + 1 } := by
      simp [checkConvergence, hawaiting, hequal]
    rw [hcheck]
    refine ⟨⟨by simp [publish, hequal], rfl⟩, fun _ => hopen, ?_⟩
    rw [if_pos ⟨hequal, hopen⟩, ← hconvergences]
    rfl
  · have hcheck : q.checkConvergence = q := by simp [checkConvergence, hequal]
    rw [hcheck]
    refine ⟨⟨by simp [publish, hequal, hawaiting], rfl⟩, fun _ => hopen, ?_⟩
    rw [if_neg fun h => hequal h.1, Nat.add_zero, ← hconvergences]
    rfl

theorem recounted_setRunnerCount {n : Nat} (hp : p.UpToDate)
    (h : p.setRunnerCount n = .ok p') : Recounted p (n != p.plannedCount) p' := by
  obtain ⟨-, -, -, ⟨rfl, rfl⟩ | ⟨hchanged, orders, rfl⟩⟩ := setRunnerCount_inv h
  · rw [bne_self_eq_false]
    exact .of_kept hp rfl rfl rfl
  · exact .of_check rfl rfl (.inr (bne_iff_ne.mpr hchanged))

theorem recounted_beginShutdown (hp : p.UpToDate) :
    Recounted p (!p.shuttingDown) p.beginShutdown := by
  cases hshut : p.shuttingDown with
  | true =>
    rw [beginShutdown_of_shuttingDown hshut]
    exact .of_kept hp rfl rfl rfl
  | false =>
    simp only [beginShutdown, hshut, Bool.false_eq_true, if_false]
    exact .of_check rfl rfl (.inr rfl)

theorem recounted_grow (hp : p.UpToDate) : Recounted p false p.grow := by
  rcases Nat.lt_or_ge p.runnerCount p.plannedCount with hbelow | henough
  · simp only [grow, hbelow, if_true]
    have hdiffer : p.runnerCount ≠ p.plannedCount := Nat.ne_of_lt hbelow
    exact .of_check (hp.awaiting_iff.mpr hdiffer) rfl (.inl hdiffer)
  · rw [grow_of_le henough]
    exact .of_kept hp rfl rfl rfl

theorem recounted_poison (hp : p.UpToDate) : Recounted p false p.poison.2 := by
  rcases Nat.lt_or_ge p.plannedCount p.runnerCount with habove | henough
  · simp only [poison, Nat.not_le.mpr habove, if_false]
    have hdiffer : p.runnerCount ≠ p.plannedCount := Nat.ne_of_gt habove
    exact .of_check (hp.awaiting_iff.mpr hdiffer) rfl (.inl hdiffer)
  · rw [poison_of_le henough]
    exact .of_kept hp rfl rfl rfl

end Pool

namespace Crew

variable {J : Type} {c c' : Crew J} {m : Move J}

/-! ## Changes of plan -/

/-- The move is an accepted change of plan. -/
def changesPlan (c : Crew J) : Move J → Bool
  | .setRunnerCount n => (c.pool.setRunnerCount n).isOk && n != c.pool.plannedCount
  | .beginShutdown => !c.pool.shuttingDown
  | .submit _ | .take _ | .follow _ => false

/-- The accepted changes of plan among moves made one after the other. -/
def planChanges (c : Crew J) : List (Move J) → Nat
  | [] => 0
  | m :: moves => (c.changesPlan m).toNat +
    match c.step m with
    | some c' => c'.planChanges moves
    | none => 0

/-- The calls that nothing is to come of: those refused, and those that ask for what is planned. -/
inductive Vain (c : Crew J) : Move J → Prop
  | badCount {n : Nat} {e : EngineError} (h : c.pool.setRunnerCount n = .error e) :
    Vain c (.setRunnerCount n)
  | samePlan : Vain c (.setRunnerCount c.pool.plannedCount)
  | refused {j : J} {e : EngineError} (h : c.pool.submit j = .error e) : Vain c (.submit j)
  | again (h : c.pool.shuttingDown = true) : Vain c .beginShutdown

/-- The move is the following of a grow order or of poison. -/
def FollowsOrder (c : Crew J) (m : Move J) : Prop :=
  ∃ i order, m = .follow i ∧ c.hands[i]? = some (some order) ∧ (order = .grow ∨ order = .poison)

/-! ## Steps -/

theorem recounted_step (hs : c.step m = some c') (hc : c.pool.UpToDate) :
    Pool.Recounted c.pool (c.changesPlan m) c'.pool := by
  cases m with
  | setRunnerCount n =>
    simp only [step] at hs
    split at hs <;> rename_i hset <;> obtain rfl := Option.some.inj hs <;>
      simp only [changesPlan, hset, Except.isOk, Except.toBool, Bool.true_and, Bool.false_and]
    · exact Pool.recounted_setRunnerCount hc hset
    · exact .of_kept hc rfl rfl rfl
  | submit j =>
    simp only [step] at hs
    split at hs <;> rename_i hsubmit <;> obtain rfl := Option.some.inj hs
    · obtain ⟨-, rfl⟩ := Pool.submit_ok hsubmit
      exact .of_kept hc rfl rfl rfl
    · exact .of_kept hc rfl rfl rfl
  | beginShutdown =>
    obtain rfl := Option.some.inj hs
    exact Pool.recounted_beginShutdown hc
  | take i =>
    simp only [step] at hs
    split at hs
    · rename_i hnext
      obtain rfl := Option.some.inj hs
      rw [(Pool.dequeue_some hnext).2]
      exact .of_kept hc rfl rfl rfl
    · cases hs
  | follow i =>
    simp only [step] at hs
    split at hs
    · rename_i order _
      obtain rfl := Option.some.inj hs
      cases order with
      | job j => exact .of_kept hc rfl rfl rfl
      | grow => exact Pool.recounted_grow hc
      | poison => exact Pool.recounted_poison hc
    · cases hs

/-- An order that is left over from earlier plans does nothing to the pool. -/
theorem pool_of_leftover (hs : c.step m = some c') (horder : c.FollowsOrder m)
    (hequal : c.pool.runnerCount = c.pool.plannedCount) : c'.pool = c.pool := by
  obtain ⟨i, order, rfl, hhand, rfl | rfl⟩ := horder
  · simp only [step, hhand] at hs
    obtain rfl := Option.some.inj hs
    exact Pool.grow_of_le (Nat.le_of_eq hequal.symm)
  · simp only [step, hhand] at hs
    obtain rfl := Option.some.inj hs
    simp only [follow, Pool.poison_of_le (Nat.le_of_eq hequal)]

theorem pool_of_vain (hs : c.step m = some c') (hvain : c.Vain m) : c'.pool = c.pool := by
  cases hvain with
  | badCount h =>
    simp only [step, h] at hs
    exact congrArg pool (Option.some.inj hs).symm
  | samePlan =>
    simp only [step] at hs
    split at hs
    · rename_i hset
      obtain rfl := Option.some.inj hs
      obtain ⟨-, -, -, ⟨-, rfl⟩ | ⟨hchanged, -⟩⟩ := Pool.setRunnerCount_inv hset
      · rfl
      · exact absurd rfl hchanged
    · exact congrArg pool (Option.some.inj hs).symm
  | refused h =>
    simp only [step, h] at hs
    exact congrArg pool (Option.some.inj hs).symm
  | again h =>
    obtain rfl := Option.some.inj hs
    exact Pool.beginShutdown_of_shuttingDown h

/-! ## Runs -/

theorem upToDate_run {moves : List (Move J)} (hrun : c.run moves = some c')
    (hc : c.pool.UpToDate) : c'.pool.UpToDate :=
  foldlM_keeps (P := fun c : Crew J => c.pool.UpToDate)
    (fun hs hc => (recounted_step hs hc).upToDate) hrun hc

theorem convergences_step_le (hs : c.step m = some c') (hc : c.pool.UpToDate) :
    c'.pool.convergences + c'.pool.awaiting.toNat ≤
      c.pool.convergences + c.pool.awaiting.toNat + (c.changesPlan m).toNat := by
  obtain ⟨hafter, hopened, hcount⟩ := recounted_step hs hc
  -- a convergence that is counted or awaited now was awaited before, or the plan was changed
  have hsource : c.pool.runnerCount ≠ c.pool.plannedCount ∨ c.changesPlan m = true →
      1 ≤ c.pool.awaiting.toNat + (c.changesPlan m).toNat := by
    rintro (hdiffer | hchanged)
    · rw [hc.awaiting_iff.mpr hdiffer]
      exact Nat.le_add_right 1 _
    · rw [hchanged]
      exact Nat.le_add_left 1 _
  rw [hcount]
  by_cases hequal : c'.pool.runnerCount = c'.pool.plannedCount
  · have hclosed : c'.pool.awaiting = false :=
      Bool.eq_false_iff.mpr fun h => hafter.awaiting_iff.mp h hequal
    rw [hclosed, Bool.toNat_false]
    split
    · rename_i hcounted
      have := hsource hcounted.2
      omega
    · omega
  · rw [if_neg fun h => hequal h.1, hafter.awaiting_iff.mpr hequal, Bool.toNat_true]
    have := hsource (hopened hequal)
    omega

/-- **No convergence without a change**: one that is open counts as one still to come. -/
theorem convergences_add_awaiting_le {moves : List (Move J)} (hrun : c.run moves = some c')
    (hc : c.pool.UpToDate) :
    c'.pool.convergences + c'.pool.awaiting.toNat ≤
      c.pool.convergences + c.pool.awaiting.toNat + c.planChanges moves := by
  induction moves generalizing c with
  | nil =>
    obtain rfl := Option.some.inj hrun
    exact Nat.le_refl _
  | cons m moves ih =>
    rw [run_cons] at hrun
    obtain ⟨d, hs, hrest⟩ := Option.bind_eq_some_iff.mp hrun
    have hrest := ih hrest (recounted_step hs hc).upToDate
    have hstep := convergences_step_le hs hc
    simp only [planChanges, hs]
    omega

/-- **Convergences are counted once for each change.**  At every point of every interleaving, and
for every move that can be made there. -/
theorem convergences_counted {config : HostConfig} {c₀ c : Crew J} {moves : List (Move J)}
    (hstart : start config = .ok c₀) (hrun : c₀.run moves = some c) :
    (c.pool.awaiting = true ↔ c.pool.runnerCount ≠ c.pool.plannedCount) ∧
      c.pool.status = c.pool.current ∧
      c.pool.convergences ≤ c₀.planChanges moves ∧
      ∀ m c', c.step m = some c' →
        c'.pool.convergences = c.pool.convergences +
            (if c'.pool.runnerCount = c'.pool.plannedCount ∧
              (c.pool.runnerCount ≠ c.pool.plannedCount ∨ c.changesPlan m = true)
            then 1 else 0) ∧
          (c.FollowsOrder m → c.pool.runnerCount = c.pool.plannedCount →
            c'.pool.status = c.pool.status) ∧
          (c.Vain m → c'.pool = c.pool) := by
  have hc₀ : c₀.pool.UpToDate := by
    obtain ⟨-, rfl⟩ := start_ok hstart
    exact Pool.upToDate_start _ _
  have hc := upToDate_run hrun hc₀
  refine ⟨hc.awaiting_iff, hc.status_eq, ?_, fun m c' hs => ⟨?_, ?_, ?_⟩⟩
  · have hnone : c₀.pool.convergences + c₀.pool.awaiting.toNat = 0 := by
      obtain ⟨-, rfl⟩ := start_ok hstart
      rfl
    have hle := convergences_add_awaiting_le hrun hc₀
    omega
  · exact (recounted_step hs hc).convergences
  · intro horder hequal
    rw [pool_of_leftover hs horder hequal]
  · exact pool_of_vain hs

/-- Two runners, a plan of three that is taken back at once, which is a convergence, and then a plan
of one: three changes, two convergences, and the grow order in the first runner's hand is left
over. -/
theorem convergences_counted_taken_back :
    ∃ c₀ c : Crew Unit, start ⟨2, "local", 5⟩ = .ok c₀ ∧
      c₀.run [.setRunnerCount 3, .setRunnerCount 2, .setRunnerCount 1, .take 0, .take 1,
        .follow 1] = some c ∧
      c.pool.convergences ≤ c₀.planChanges [.setRunnerCount 3, .setRunnerCount 2,
        .setRunnerCount 1, .take 0, .take 1, .follow 1] ∧
      c.pool.convergences = 2 ∧ c.FollowsOrder (.follow 0) ∧
      ∃ c', c.step (.follow 0) = some c' ∧ c'.pool.status = c.pool.status := by
  obtain ⟨-, -, hle, hmoves⟩ := @convergences_counted Unit ⟨2, "local", 5⟩ _ _
    [.setRunnerCount 3, .setRunnerCount 2, .setRunnerCount 1, .take 0, .take 1, .follow 1] rfl rfl
  exact ⟨_, _, rfl, rfl, hle, rfl, ⟨0, .grow, rfl, rfl, .inl rfl⟩, _, rfl,
    (hmoves (.follow 0) _ rfl).2.1 ⟨0, .grow, rfl, rfl, .inl rfl⟩ rfl⟩

end Crew
end CommandEngine
