import CommandEngine.Proofs.Crew.Basic

/-!
# What a shutdown leaves in the queue

A shutdown sets the plan to nobody.  From then on every poison that a runner follows ends that
runner, whatever it was meant for when it was queued: a shutdown turns the poison of an earlier
resize, which its counter-order would have made harmless, into poison that counts.  Such poison may
stand *ahead* of accepted work, and then the runners are gone before they reach it.

Since the queue is taken from the front and nothing is added to it any more, the shutdown's outcome
is settled when it begins, whoever moves when.  Let `c` be the crew at that point.  Poison already
in a hand ends its runner, so of the live runners those without one are left, and each poison in the
queue ends one more.  The message at some place is reached if and only if fewer poisons are ahead of
it, the hands included, than there are runners (`Crew.JobsReached`).  With that, the main result
(`Crew.drained_iff`) says exactly when a shutdown drains the queue.  It does not always
(`Crew.job_left_behind`).

The invariant is `Crew.Draining`.  It speaks of the messages taken since the shutdown began: they
are a front part of the queue of that moment, the last of them was taken by a runner that was not
yet doomed, and the runners still alive are those at the beginning less the poison followed.
-/
namespace CommandEngine
namespace Crew

variable {J : Type}

/-- The poison among messages. -/
def poisonIn (messages : List (Message J)) : Nat := messages.countP (·.isPoison)

@[simp] theorem poisonIn_append (a b : List (Message J)) :
    poisonIn (a ++ b) = poisonIn a + poisonIn b := List.countP_append

@[simp] theorem poisonIn_cons (m : Message J) (messages : List (Message J)) :
    poisonIn (m :: messages) = poisonIn messages + if m.isPoison then 1 else 0 := List.countP_cons

@[simp] theorem poisonIn_nil : poisonIn ([] : List (Message J)) = 0 := rfl

/-- **Every queued job is reached by a runner**: ahead of it, the hands included, is less poison
than there are runners. -/
def JobsReached (c : Crew J) : Prop :=
  ∀ ahead j behind, c.pool.queue = ahead ++ .job j :: behind →
    poisonIn c.held + poisonIn ahead < c.pool.runnerCount

/-- The crew `e` is shutting down since it was as `c`, and `taken` are the messages taken out of the
queue since then. -/
structure Draining (c : Crew J) (taken : List (Message J)) (e : Crew J) : Prop where
  shuttingDown : e.pool.shuttingDown = true
  plan : e.pool.plannedCount = 0
  accepted_eq : e.accepted = c.accepted
  /-- What is queued now was queued when the shutdown began, and then came the shutdown's poison. -/
  queue : c.pool.queue ++
    List.replicate (max c.pool.plannedCount c.pool.runnerCount) .poison = taken ++ e.pool.queue
  /-- A runner that is gone followed a poison that was in a hand or was taken. -/
  balance : e.pool.runnerCount + poisonIn c.held + poisonIn taken =
    c.pool.runnerCount + poisonIn e.held
  /-- Whoever took a message was not the last one doomed. -/
  undoomed : ∀ front m back, taken = front ++ m :: back →
    poisonIn c.held + poisonIn front < c.pool.runnerCount

/-! ## Hands and poison -/

theorem poisonIn_held {c : Crew J} {l r : List (Option (Message J))} {x : Option (Message J)}
    (hhand : c.hands = l ++ x :: r) :
    poisonIn c.held =
      poisonIn (l.filterMap id) + poisonIn x.toList + poisonIn (r.filterMap id) := by
  cases x with
  | none => simp [held, hhand]
  | some m => simp [held, hhand]; omega

/-- No hand holds more than one poison. -/
theorem poisonIn_hands_le (hands : List (Option (Message J))) :
    poisonIn (hands.filterMap id) ≤ hands.length :=
  Nat.le_trans List.countP_le_length (List.length_filterMap_le ..)

/-- Where a hand is empty, poison is in fewer hands than there are. -/
theorem poisonIn_held_lt {c : Crew J} {l r : List (Option (Message J))}
    (hhand : c.hands = l ++ none :: r) : poisonIn c.held < c.hands.length := by
  rw [poisonIn_held hhand, hhand]
  have hl := poisonIn_hands_le l
  have hr := poisonIn_hands_le r
  simp only [Option.toList_none, poisonIn_nil, List.length_append, List.length_cons]
  omega

/-! ## The invariant -/

theorem Draining.of_beginShutdown {c : Crew J} (hopen : c.pool.shuttingDown = false) :
    Draining c [] { c with pool := c.pool.beginShutdown } := by
  obtain ⟨hshut, hplan, hcount, hq⟩ := Pool.beginShutdown_of_open hopen
  exact ⟨hshut, hplan, rfl, hq.symm, by rw [hcount]; rfl, by simp⟩

/-- Followed messages other than the poison that ends its runner change nothing that counts. -/
theorem Draining.of_followed {c e e' : Crew J} {taken : List (Message J)} (hd : Draining c taken e)
    (hpool : e'.pool = e.pool) (haccepted : e'.accepted = e.accepted)
    (hheld : poisonIn e'.held = poisonIn e.held) : Draining c taken e' :=
  ⟨hpool ▸ hd.shuttingDown, hpool ▸ hd.plan, haccepted ▸ hd.accepted_eq, hpool ▸ hd.queue,
    by rw [hpool, hheld]; exact hd.balance, hd.undoomed⟩

theorem Draining.step {c e e' : Crew J} {taken : List (Message J)} (hs : Step e e')
    (he : e.Accounted) (hd : Draining c taken e) : ∃ taken', Draining c taken' e' := by
  have hrefuse := hd.shuttingDown
  have hplan := hd.plan
  cases hs with
  | refused => exact ⟨taken, hd⟩
  | replanned h => rw [(Pool.setRunnerCount_ok h).1] at hrefuse; cases hrefuse
  | accepted h => rw [(Pool.submit_ok h).1] at hrefuse; cases hrefuse
  | shutdown => rw [Pool.beginShutdown_of_shuttingDown hrefuse]; exact ⟨taken, hd⟩
  | @taken l r m pool hhand hnext =>
    obtain ⟨hq, hpool⟩ := Pool.dequeue_some hnext
    have hidle := poisonIn_held_lt hhand
    rw [he.hands_length] at hidle
    have hheld := poisonIn_held (c := e) hhand
    have hbalance := hd.balance
    refine ⟨taken ++ [m], ?_, ?_, hd.accepted_eq, ?_, ?_, ?_⟩
    · rw [hpool]; exact hd.shuttingDown
    · rw [hpool]; exact hd.plan
    · rw [hd.queue, hq, List.append_assoc]; rfl
    · have hheld' := poisonIn_held (J := J) (c := { e with
        pool, hands := l ++ some m :: r, dequeued := e.dequeued ++ m.job?.toList }) rfl
      rw [hheld', hpool]
      simp only [Option.toList_none, Option.toList_some, poisonIn_nil, poisonIn_cons,
        poisonIn_append] at hheld ⊢
      omega
    · intro front m' back hsplit
      rcases List.append_eq_append_iff.mp hsplit with ⟨mid, hfront, hback⟩ | ⟨mid, htaken, hback⟩
      · -- the message just taken: an empty hand means that not all runners are doomed
        cases mid with
        | nil =>
          rw [hfront, List.append_nil]
          omega
        | cons x mid =>
          have := congrArg List.length hback
          simp at this
      · cases mid with
        | nil =>
          rw [htaken] at hbalance
          simp only [List.append_nil] at hbalance
          omega
        | cons x mid =>
          obtain ⟨rfl, -⟩ := List.cons.inj hback
          exact hd.undoomed front m' mid htaken
  | @finished l r j hhand =>
    refine ⟨taken, hd.of_followed rfl rfl ?_⟩
    rw [poisonIn_held hhand, poisonIn_held
      (c := { e with hands := l ++ none :: r, finished := e.finished ++ [j] }) rfl]
    rfl
  | @grown l r hhand hbelow => rw [hplan] at hbelow; cases hbelow
  | @growIgnored l r hhand henough =>
    refine ⟨taken, hd.of_followed rfl rfl ?_⟩
    rw [poisonIn_held hhand, poisonIn_held (c := { e with hands := l ++ none :: r }) rfl]
    rfl
  | @exited l r hhand habove =>
    obtain ⟨-, hcount, hplan', hshut, hq⟩ := Pool.poison_of_lt habove
    have hbalance := hd.balance
    have hheld := poisonIn_held hhand
    have hheld' : poisonIn (held { e with pool := e.pool.poison.2, hands := l ++ r }) =
        poisonIn (l.filterMap id) + poisonIn (r.filterMap id) := by simp [held]
    refine ⟨taken, hshut.trans hrefuse, hplan'.trans hplan, hd.accepted_eq, ?_, ?_, hd.undoomed⟩
    · rw [hq]; exact hd.queue
    · rw [hheld', hcount]
      simp only [Option.toList_some, poisonIn_cons, poisonIn_nil, Message.isPoison, if_true]
        at hheld
      omega
  | @poisonIgnored l r hhand henough =>
    -- nobody is left, so nobody has a hand to hold the poison in
    rw [hplan, Nat.le_zero, ← he.hands_length, hhand] at henough
    simp at henough

theorem Draining.of_run {c e e' : Crew J} {taken : List (Message J)} {moves : List (Move J)}
    (hrun : e.run moves = some e') (he : e.Accounted) (hd : Draining c taken e) :
    e'.Accounted ∧ ∃ taken', Draining c taken' e' :=
  run_keeps (P := fun e => e.Accounted ∧ ∃ taken, Draining c taken e)
    (fun hs ⟨he, _, hd⟩ => ⟨he.step hs, hd.step hs he⟩) hrun ⟨he, taken, hd⟩

/-! ## The main result -/

/-- Only one move begins a shutdown. -/
theorem eq_beginShutdown {c d : Crew J} {m : Move J} (h : c.step m = some d)
    (hopen : c.pool.shuttingDown = false) (hshut : d.pool.shuttingDown = true) :
    m = .beginShutdown := by
  have hkept : ∀ {e : Crew J}, some e = some d → e.pool.shuttingDown = false → False := by
    intro e he hfalse
    rw [Option.some.inj he, hshut] at hfalse
    cases hfalse
  cases m with
  | beginShutdown => rfl
  | setRunnerCount n =>
    simp only [step] at h
    split at h
    · rename_i pool hpool
      exact (hkept h (Pool.setRunnerCount_ok hpool).2.1).elim
    · exact (hkept h hopen).elim
  | submit j =>
    simp only [step] at h
    split at h
    · rename_i pool hpool
      exact (hkept h (by rw [(Pool.submit_ok hpool).2]; exact hopen)).elim
    · exact (hkept h hopen).elim
  | take i =>
    simp only [step] at h
    split at h
    · rename_i pool _ hnext
      exact (hkept h (by rw [(Pool.dequeue_some hnext).2]; exact hopen)).elim
    · cases h
  | follow i =>
    simp only [step] at h
    split at h
    · rename_i m _
      refine (hkept h ?_).elim
      cases m with
      | job j => exact hopen
      | grow =>
        rcases Nat.lt_or_ge c.pool.runnerCount c.pool.plannedCount with hbelow | henough
        · exact (Pool.grow_of_lt hbelow).2.2.1.trans hopen
        · simpa [follow, Pool.grow_of_le henough] using hopen
      | poison =>
        rcases Nat.lt_or_ge c.pool.plannedCount c.pool.runnerCount with habove | henough
        · exact (Pool.poison_of_lt habove).2.2.2.1.trans hopen
        · simpa [follow, Pool.poison_of_le henough] using hopen
    · cases h

/-- A crew that is shutting down began to at some move. -/
theorem exists_beginShutdown {c e : Crew J} {moves : List (Move J)} (hrun : c.run moves = some e)
    (hopen : c.pool.shuttingDown = false) (hshut : e.pool.shuttingDown = true) :
    ∃ before after d, moves = before ++ .beginShutdown :: after ∧ c.run before = some d ∧
      d.pool.shuttingDown = false ∧
      run { d with pool := d.pool.beginShutdown } after = some e := by
  induction moves generalizing c with
  | nil =>
    rw [← Option.some.inj hrun, hopen] at hshut
    cases hshut
  | cons m moves ih =>
    rw [run_cons] at hrun
    obtain ⟨d, hd, hrest⟩ := Option.bind_eq_some_iff.mp hrun
    cases hdopen : d.pool.shuttingDown with
    | false =>
      obtain ⟨before, after, f, rfl, hbefore, hf, hafter⟩ := ih hrest hdopen
      exact ⟨m :: before, after, f, rfl, by rw [run_cons, hd]; exact hbefore, hf, hafter⟩
    | true =>
      obtain rfl := eq_beginShutdown hd hopen hdopen
      exact ⟨[], moves, c, rfl, rfl, hopen, (Option.some.inj hd) ▸ hrest⟩

/-- When the runners of a shutdown are gone, the messages taken had all the poison that the runners
without one were to be ended by. -/
theorem Draining.poisonIn_taken {c e : Crew J} {taken : List (Message J)} (hd : Draining c taken e)
    (he : e.Accounted) (hgone : e.pool.runnerCount = 0) :
    poisonIn c.held + poisonIn taken = c.pool.runnerCount := by
  have hheld : poisonIn e.held = 0 := by
    have := poisonIn_hands_le e.hands
    rw [he.hands_length, hgone] at this
    exact Nat.le_zero.mp this
  have hbalance := hd.balance
  omega

/-- **The jobs left in the queue are those behind too much poison.** -/
theorem Draining.jobs_left_iff {c e : Crew J} {taken : List (Message J)} (hd : Draining c taken e)
    (he : e.Accounted) (hgone : e.pool.runnerCount = 0) :
    (∀ j, .job j ∉ e.pool.queue) ↔ c.JobsReached := by
  have htaken := hd.poisonIn_taken he hgone
  constructor
  · intro hnone ahead j behind hq
    -- the job was taken, by a runner that was not doomed when it took it
    have hqueue := hd.queue
    rw [hq, List.append_assoc] at hqueue
    rcases List.append_eq_append_iff.mp hqueue with ⟨mid, htk, hrest⟩ | ⟨mid, hahead, hrest⟩
    · cases mid with
      | nil => exact (hnone j (by rw [List.nil_append] at hrest; rw [← hrest]; simp)).elim
      | cons m mid =>
        obtain ⟨rfl, -⟩ := List.cons.inj hrest
        exact hd.undoomed ahead _ mid htk
    · exact (hnone j (by rw [hrest]; simp)).elim
  · intro hreached j hj
    obtain ⟨front, back, hsplit⟩ := List.append_of_mem hj
    have hqueue := hd.queue
    rw [hsplit, ← List.append_assoc] at hqueue
    -- the job is not among the shutdown's poison, so it was queued before
    obtain ⟨behind, hq⟩ : ∃ behind, c.pool.queue = (taken ++ front) ++ .job j :: behind := by
      rcases List.append_eq_append_iff.mp hqueue with ⟨mid, hmid, hrest⟩ | ⟨mid, hmid, hrest⟩
      · have : Message.job j ∈ List.replicate (max c.pool.plannedCount c.pool.runnerCount)
            (Message.poison : Message J) := by rw [hrest]; simp
        cases (List.eq_of_mem_replicate this)
      · cases mid with
        | nil =>
          have : Message.job j ∈ List.replicate (max c.pool.plannedCount c.pool.runnerCount)
            (Message.poison : Message J) := by
              rw [List.nil_append] at hrest; rw [← hrest]; simp
          cases (List.eq_of_mem_replicate this)
        | cons m mid =>
          obtain ⟨rfl, -⟩ := List.cons.inj hrest
          exact ⟨mid, hmid⟩
    have := hreached _ _ _ hq
    rw [poisonIn_append] at this
    omega

/-- With nobody left, the accepted jobs are finished exactly if none is in the queue. -/
theorem Accounted.finished_iff {e : Crew J} (he : e.Accounted) (hgone : e.pool.runnerCount = 0) :
    e.accepted.Perm e.finished ↔ ∀ j, .job j ∉ e.pool.queue := by
  have hhands : e.hands = [] := List.eq_nil_of_length_eq_zero (he.hands_length.trans hgone)
  have hdequeued : e.dequeued.Perm e.finished := by
    simpa [heldJobs, held, hhands] using he.dequeued_perm
  rw [he.accepted_eq]
  constructor
  · intro hperm j hj
    have hlength := hperm.length_eq
    rw [List.length_append, hdequeued.length_eq] at hlength
    have hmem : j ∈ e.pool.queuedJobs := List.mem_filterMap.mpr ⟨_, hj, rfl⟩
    have := List.length_pos_of_mem hmem
    omega
  · intro hnone
    have hnil : e.pool.queuedJobs = [] := by
      refine List.filterMap_eq_nil_iff.mpr ?_
      intro m hm
      cases m with
      | job j => exact (hnone j hm).elim
      | grow | poison => rfl
    rw [hnil, List.append_nil]
    exact hdequeued

/-- **When a shutdown drains the queue.**  Take any run that ends with the shutdown begun and no
runner left, and the crew `c` at which the shutdown began.  Then no job is left in the queue if and
only if `c.JobsReached`, and all jobs that were accepted before the shutdown are finished if and
only if `c.JobsReached`; none was accepted after it. -/
theorem drained_iff {config : HostConfig} {c₀ e : Crew J} {moves : List (Move J)}
    (hstart : start config = .ok c₀) (hrun : c₀.run moves = some e)
    (hshut : e.pool.shuttingDown = true) (hgone : e.pool.runnerCount = 0) :
    ∃ before after c, moves = before ++ .beginShutdown :: after ∧ c₀.run before = some c ∧
      c.pool.shuttingDown = false ∧
      ((∀ j, .job j ∉ e.pool.queue) ↔ c.JobsReached) ∧
      (c.accepted.Perm e.finished ↔ c.JobsReached) := by
  have hopen : c₀.pool.shuttingDown = false := by
    obtain ⟨-, rfl⟩ := start_ok hstart
    rfl
  obtain ⟨before, after, c, hmoves, hbefore, hcopen, hafter⟩ :=
    exists_beginShutdown hrun hopen hshut
  have hc : c.Accounted := .of_run hstart hbefore
  obtain ⟨he, taken, hd⟩ := Draining.of_run hafter (hc.step (.shutdown c))
    (Draining.of_beginShutdown hcopen)
  have hleft := hd.jobs_left_iff he hgone
  refine ⟨before, after, c, hmoves, hbefore, hcopen, hleft, ?_⟩
  rw [← hd.accepted_eq, he.finished_iff hgone]
  exact hleft

/-- A single runner, resized up and down before it moves: the grow order is ignored, the poison is
not, and the shutdown leaves the accepted job behind. -/
theorem job_left_behind :
    ∃ c₀ e : Crew Unit, start ⟨1, "local", 2⟩ = .ok c₀ ∧
      c₀.run [.setRunnerCount 2, .setRunnerCount 1, .submit (), .beginShutdown,
        .take 0, .follow 0, .take 0, .follow 0] = some e ∧
      e.pool.shuttingDown = true ∧ e.pool.runnerCount = 0 ∧
      .job () ∈ e.pool.queue ∧ e.accepted = [()] ∧ e.finished = [] :=
  ⟨_, _, rfl, rfl, rfl, rfl, by decide, rfl, rfl⟩

/-- The same resizes with two runners: one of them is left to take the job. -/
theorem drained_iff_two_runners :
    ∃ c₀ e : Crew Unit, start ⟨2, "local", 3⟩ = .ok c₀ ∧
      c₀.run [.setRunnerCount 3, .setRunnerCount 2, .submit (), .beginShutdown,
        .take 0, .take 1, .follow 1, .follow 0, .take 0, .follow 0, .take 0, .follow 0] = some e ∧
      e.pool.shuttingDown = true ∧ e.pool.runnerCount = 0 ∧
      ∃ before after c,
        [.setRunnerCount 3, .setRunnerCount 2, .submit (), .beginShutdown,
          .take 0, .take 1, .follow 1, .follow 0, .take 0, .follow 0, .take 0, .follow 0] =
            before ++ .beginShutdown :: after ∧ c₀.run before = some c ∧
        c.pool.shuttingDown = false ∧
        ((∀ j, .job j ∉ e.pool.queue) ↔ c.JobsReached) ∧
        (c.accepted.Perm e.finished ↔ c.JobsReached) :=
  ⟨_, _, rfl, rfl, rfl, rfl, @drained_iff Unit ⟨2, "local", 3⟩ _ _ _ rfl rfl rfl rfl⟩

end Crew
end CommandEngine
