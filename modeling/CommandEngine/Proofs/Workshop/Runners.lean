import CommandEngine.Proofs.Crew.Bounds
import CommandEngine.Proofs.Crew.Coverage
import CommandEngine.Proofs.Workshop.Basic

/-!
# The runners of a workshop

Whatever jobs do, they do not change how many runners there are: a runner that was started is
counted until it follows a poison that ends it.  So the count of the pool is that of the runners
that live (`Workshop.Manned`), it is within the bounds of the crew, and once the shutdown has begun
it only falls.
-/
namespace CommandEngine
namespace Workshop

variable {D : Type} {w w' : Workshop D} {config : HostConfig}

/-- At most one runner ends in a step, and all who start or end are counted. -/
theorem Step.counts (hs : Step w w') : ∃ exits : Bool, w'.exited = w.exited + exits.toNat ∧
    w'.crew.pool.runnerCount + exits.toNat + w.crew.pool.started =
      w.crew.pool.runnerCount + w'.crew.pool.started := by
  cases hs with
  | made | refused | discarded | finished | released => exact ⟨false, rfl, rfl⟩
  | accepted _ haccept =>
    obtain ⟨-, rfl⟩ := Pool.submit_ok haccept
    exact ⟨false, rfl, rfl⟩
  | @moved crew exits _ _ _ hexited => exact ⟨exits, rfl, hexited⟩

/-- **The runners that were started are those that live and those that exited.** -/
structure Manned (config : HostConfig) (w : Workshop D) : Prop where
  bounded : w.crew.Bounded config.maxRunnerCount
  covered : w.crew.Covered
  accounted : w.crew.Accounted
  counted : w.crew.pool.runnerCount + w.exited = w.crew.pool.started

theorem Manned.of_start {registry : Registry D} (hstart : start registry config = .ok w) :
    w.Manned config := by
  obtain ⟨crew, hcrew, rfl⟩ := start_ok hstart
  refine ⟨.of_start hcrew, .of_start hcrew, .of_start hcrew, ?_⟩
  obtain ⟨-, rfl⟩ := Crew.start_ok hcrew
  rfl

theorem Manned.step (hs : Step w w') (hw : w.Manned config) : w'.Manned config := by
  refine ⟨hw.bounded.step hs.crew, hw.covered.step hs.crew, hw.accounted.step hs.crew, ?_⟩
  obtain ⟨exits, hexited, hcounts⟩ := hs.counts
  have hcounted := hw.counted
  omega

theorem Manned.of_run {registry : Registry D} {w₀ : Workshop D} {moves : List (Move D)}
    (hstart : start registry config = .ok w₀) (hrun : w₀.run moves = some w) : w.Manned config :=
  run_keeps Manned.step hrun (.of_start hstart)

/-- Once the shutdown has begun, a step ends one runner or leaves their number as it is. -/
theorem Manned.closed (hw : w.Manned config) (hshut : w.crew.pool.shuttingDown = true)
    (hs : Step w w') : w'.crew.pool.shuttingDown = true ∧
      (w'.crew.pool.runnerCount = w.crew.pool.runnerCount ∧ w'.exited = w.exited ∨
        w'.crew.pool.runnerCount + 1 = w.crew.pool.runnerCount ∧ w'.exited = w.exited + 1) := by
  have hplan : w.crew.pool.plannedCount = 0 := by
    rw [hw.covered.plan, hshut]
    rfl
  have hstarted := hs.crew.started_of_plan hplan
  refine ⟨hs.crew.shuttingDown hshut, ?_⟩
  obtain ⟨exits, hexited, hcounts⟩ := hs.counts
  rw [hstarted] at hcounts
  cases exits with
  | false => exact .inl ⟨Nat.add_right_cancel hcounts, hexited⟩
  | true => exact .inr ⟨Nat.add_right_cancel hcounts, hexited⟩

/-- A runner that comes to the end of its job goes back to the queue, whatever is reported. -/
theorem exists_followed {i : Nat} {j : TicketedJob D} {report : Option ExecutedCommand}
    (hhand : w.crew.hands[i]? = some (some (.job j))) (hended : w.processed j = some report) :
    ∃ w', w.step (.follow i) = some w' ∧ w'.crew.pool = w.crew.pool ∧
      w'.crew.hands = w.crew.hands.set i none ∧ w'.exited = w.exited := by
  have hfollow : w.step (.follow i) = some { w with
      crew := w.crew.follow i (.job j)
      tickets := write j.ticket (.ofRun (some report)) w.tickets } := by
    simp only [step, hhand, follow, hended]
  exact ⟨_, hfollow, rfl, rfl, rfl⟩

/-! ## The main result -/

/-- **The pool stays within bounds and never loses its last runner.**  Every valid configuration
starts a workshop, and after any moves: there are as many hands as the pool counts runners, and with
the runners that exited they are all that were ever started; before the shutdown the plan and the
number of runners are at least one and at most the maximum; from then on the shutdown stays, and
each move ends one runner or none; and a runner that comes to the end of a job goes back to the
queue, whatever came of the job and its report. -/
theorem runners_bounded (registry : Registry D) (hvalid : config.validate = .ok ()) :
    ∃ w₀, start registry config = .ok w₀ ∧ ∀ moves w, w₀.run moves = some w →
      w.crew.hands.length = w.crew.pool.runnerCount ∧
      w.crew.pool.runnerCount + w.exited = w.crew.pool.started ∧
      (w.crew.pool.shuttingDown = false →
        (1 ≤ w.crew.pool.plannedCount ∧ w.crew.pool.plannedCount ≤ config.maxRunnerCount) ∧
        (1 ≤ w.crew.pool.runnerCount ∧ w.crew.pool.runnerCount ≤ config.maxRunnerCount)) ∧
      (w.crew.pool.shuttingDown = true → ∀ m w', w.step m = some w' →
        w'.crew.pool.shuttingDown = true ∧
        (w'.crew.pool.runnerCount = w.crew.pool.runnerCount ∧ w'.exited = w.exited ∨
          w'.crew.pool.runnerCount + 1 = w.crew.pool.runnerCount ∧ w'.exited = w.exited + 1)) ∧
      ∀ i j report, w.crew.hands[i]? = some (some (.job j)) → w.processed j = some report →
        ∃ w', w.step (.follow i) = some w' ∧ w'.crew.pool = w.crew.pool ∧
          w'.crew.hands = w.crew.hands.set i none ∧ w'.exited = w.exited := by
  obtain ⟨w₀, hstart⟩ : ∃ w₀, start registry config = .ok w₀ := by
    unfold start Crew.start
    rw [hvalid]
    exact ⟨_, rfl⟩
  refine ⟨w₀, hstart, fun moves w hrun => ?_⟩
  have hw : w.Manned config := .of_run hstart hrun
  refine ⟨hw.accounted.hands_length, hw.counted, fun hopen => ?_, fun hshut m w' hstep => ?_,
    fun i j report hhand hended => exists_followed hhand hended⟩
  · obtain ⟨hplanned, hcounted⟩ := hw.bounded.pos_of_open hopen
    exact ⟨⟨hplanned, hw.bounded.plan_le⟩, hcounted, hw.bounded.size_le⟩
  · exact hw.closed hshut (.of_step hstep)

/-- A second runner is ordered and dismissed while the only one has a job whose callback panics: it is
the last one, and goes on. -/
theorem runners_bounded_recalled : Small.config.validate = .ok () ∧
    ∃ w₀ w, start Small.registry Small.config = .ok w₀ ∧
      w₀.run [.make (Small.job (some fun _ => ⟨[], some .other⟩)), .submit 0, .take 0,
        .setRunnerCount 2, .setRunnerCount 1, .follow 0] = some w ∧
      w.crew.pool.runnerCount + w.exited = w.crew.pool.started ∧
      1 ≤ w.crew.pool.runnerCount ∧ w.crew.pool.runnerCount ≤ 2 := by
  obtain ⟨w₀, hstart, hall⟩ :=
    runners_bounded Small.registry (show Small.config.validate = .ok () from rfl)
  have hends : (start Small.registry Small.config).toOption.bind (fun w₀ =>
      (w₀.run [.make (Small.job (some fun _ => ⟨[], some .other⟩)), .submit 0, .take 0,
        .setRunnerCount 2, .setRunnerCount 1, .follow 0]).map (·.crew.pool.shuttingDown)) =
      some false := by
    decide +kernel
  rw [hstart] at hends
  obtain ⟨w, hrun, hopen⟩ := Option.map_eq_some_iff.mp hends
  obtain ⟨-, hcounted, hbounds, -⟩ := hall _ w hrun
  exact ⟨rfl, w₀, w, hstart, hrun, hcounted, (hbounds hopen).2⟩

end Workshop
end CommandEngine
