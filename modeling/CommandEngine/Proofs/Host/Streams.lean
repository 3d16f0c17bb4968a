import CommandEngine.Proofs.Host.Channel
import CommandEngine.Proofs.Host.Simulation
import CommandEngine.Proofs.Job.Streaming

/-!
# The streams of a host's callers

Whatever a host does is, for any one of its channels, a number of steps of that channel.  A job is
somewhere at any time, with its caller, in the queue or with a runner, and only a runner that plays
its history back sends what it streams, event by event, before the ticket is completed
(`Midway.play`).  Everything else hands a job on as it is, or drops it.  So it is enough to say
where the dues are between two moves (`Follows`) and in the middle of one, when a runner has a
message in its hand that its phase does not tell of yet (`Midway`).

A runner that moves takes a message, follows it, and goes on or stops (`Onward`).  The induction is
on the rounds that its budget leaves it, and on the history inside of a round.
-/
namespace CommandEngine
namespace Host

variable {D : Type} {h h' h₁ h₂ : Host D}

/-! ## Changes that do not concern tickets -/

/-- The pool, the runners and the tickets are as they were. -/
structure Beside (h h' : Host D) : Prop extends Aside h h' where
  tickets : h'.tickets = h.tickets

theorem Beside.refl (h : Host D) : Beside h h := ⟨.refl h, rfl⟩

theorem Beside.trans (h₁₂ : Beside h h₁) (h₂₃ : Beside h₁ h₂) : Beside h h₂ :=
  ⟨h₁₂.toAside.trans h₂₃.toAside, h₂₃.tickets.trans h₁₂.tickets⟩

theorem beside_wake (h : Host D) (m : Mover) : Beside h (h.wake m) := by
  refine ⟨aside_wake h m, ?_⟩
  unfold wake
  split <;> rfl

theorem beside_wakeAll (ms : List Mover) (h : Host D) : Beside h (ms.foldl wake h) := by
  induction ms generalizing h with
  | nil => exact .refl h
  | cons m ms ih => exact (beside_wake h m).trans (ih _)

theorem beside_lineUp (h : Host D) : Beside h h.lineUp :=
  ⟨aside_lineUp h, (beside_wakeAll (h.resting.map Mover.runner) { h with resting := [] }).tickets⟩

theorem beside_notify (h : Host D) : Beside h h.notify :=
  ⟨aside_notify h, (beside_wakeAll (h.watchers.map Mover.watcher) { h with watchers := [] }).tickets⟩

theorem beside_passTurn (h : Host D) : Beside h h.passTurn := by
  refine ⟨aside_passTurn h, ?_⟩
  unfold passTurn
  split
  · rfl
  · exact (beside_wake _ _).tickets

theorem beside_setPool (h : Host D) (pool : Pool (TicketedJob D)) :
    Beside { h with pool } (h.setPool pool) := by
  refine ⟨aside_setPool h pool, ?_⟩
  unfold setPool
  dsimp only
  split
  · rfl
  · split
    · split
      · rfl
      · exact (beside_wake _ _).tickets
    · rfl

theorem Beside.issued (hside : Beside h h') : h'.issued = h.issued := by
  have hbooks := hside.books
  simp only [books, Prod.mk.injEq] at hbooks
  exact hbooks.2.2.1

theorem Beside.registry_party (hside : Beside h h') :
    h'.registry = h.registry ∧ h'.party = h.party := by
  have hbooks := hside.books
  simp only [books, Prod.mk.injEq] at hbooks
  exact ⟨hbooks.1, hbooks.2.1⟩

/-! ## A host between the moves, and in the middle of one -/

/-- `stream` tells what jobs stream when this host runs them, and the ledger has a job for every
ticket. -/
def Keeps (stream : TicketedJob D → List Object) (l : Ledger D) (h : Host D) : Prop :=
  (∀ j, stream j = streamed (j.job.process h.registry h.party).run.history) ∧
    h.issued = l.jobs.length

theorem Keeps.of_beside {stream : TicketedJob D → List Object} {l : Ledger D}
    (hk : Keeps stream l h) (hside : Beside h h') : Keeps stream l h' := by
  obtain ⟨hregistry, hparty⟩ := hside.registry_party
  exact ⟨fun j => by rw [hk.1 j, hregistry, hparty], hside.issued.trans hk.2⟩

/-- The host sees the channel, with all the dues that there are: those of its runners, of its queue
and of the jobs that callers have (`made`). -/
structure Follows (P : Channel → Prop) (n : Nat) (stream : TicketedJob D → List Object)
    (made : List (TicketedJob D)) (l : Ledger D) (h : Host D) : Prop where
  numbered : Numbered h
  keeps : Keeps stream l h
  sees : Sees P n l h
    (runnerDues h.runners ++ (h.pool.queuedJobs ++ made).map (TicketedJob.due stream))

/-- The same of a host one of whose runners moves.  What is due from that runner is stated beside its
phase. -/
structure Midway (P : Channel → Prop) (n : Nat) (stream : TicketedJob D → List Object)
    (made : List (TicketedJob D)) (l : Ledger D) (h : Host D) (id : Nat) (hand : List Due) :
    Prop where
  numbered : Numbered h
  keeps : Keeps stream l h
  sees : ∃ front runner back, h.runners = front ++ runner :: back ∧ runner.id = id ∧
    Sees P n l h (hand ++ (runnerDues (front ++ back) ++
      (h.pool.queuedJobs ++ made).map (TicketedJob.due stream)))

variable {P : Channel → Prop} {n : Nat} {stream : TicketedJob D → List Object}
  {made : List (TicketedJob D)} {l : Ledger D} {id : Nat} {hand : List Due}

theorem Follows.of_beside (hf : Follows P n stream made l h) (hside : Beside h h') :
    Follows P n stream made l h' :=
  ⟨hf.numbered.of_aside hside.toAside, hf.keeps.of_beside hside,
    hside.runners ▸ hside.pool ▸ hf.sees.of_tickets hside.issued hside.tickets⟩

/-- The runner and what is due elsewhere stay as they are, while its own dues and the tickets
change. -/
theorem Midway.handle {hand' : List Due} (hm : Midway P n stream made l h id hand)
    (hrunners : h'.runners = h.runners) (hpool : h'.pool = h.pool) (hkeeps : Keeps stream l h')
    (hsees : ∀ dues, Sees P n l h (hand ++ dues) → Sees P n l h' (hand' ++ dues)) :
    Midway P n stream made l h' id hand' := by
  obtain ⟨front, runner, back, hsplit, hid, hbefore⟩ := hm.sees
  exact ⟨hm.numbered.of_ids (congrArg (List.map _) hrunners) (congrArg _ hpool), hkeeps, front,
    runner, back, hrunners.trans hsplit, hid, hpool ▸ hsees _ hbefore⟩

theorem Midway.of_beside (hm : Midway P n stream made l h id hand) (hside : Beside h h') :
    Midway P n stream made l h' id hand :=
  hm.handle hside.runners hside.pool (hm.keeps.of_beside hside) fun _ hsees =>
    hsees.of_tickets hside.issued hside.tickets

theorem Follows.mono {Q : Channel → Prop} (hf : Follows P n stream made l h)
    (hPQ : ∀ c, P c → Q c) : Follows Q n stream made l h :=
  ⟨hf.numbered, hf.keeps, hf.sees.mono hPQ⟩

/-- The dues of one runner among those of all. -/
theorem perm_runnerDues (front back : List Runner) (runner : Runner) (dues : List Due) :
    (runnerDues (front ++ runner :: back) ++ dues).Perm
      (runner.phase.due?.toList ++ (runnerDues (front ++ back) ++ dues)) := by
  have hcons : runnerDues (runner :: back) = runner.phase.due?.toList ++ runnerDues back := by
    unfold runnerDues
    cases hdue : runner.phase.due? with
    | none => exact List.filterMap_cons_none hdue
    | some due => exact List.filterMap_cons_some hdue
  have hsplit (rs : List Runner) : runnerDues (front ++ rs) = runnerDues front ++ runnerDues rs :=
    List.filterMap_append
  rw [hsplit, hsplit, hcons, List.append_assoc, List.append_assoc, List.append_assoc]
  exact List.perm_append_comm_assoc _ _ _

/-- A runner that is found is one that can move. -/
theorem Follows.midway (hf : Follows P n stream made l h) {phase : Phase}
    (hphase : h.phase? id = some phase) : Midway P n stream made l h id phase.due?.toList := by
  obtain ⟨runner, hfind, rfl⟩ := Option.map_eq_some_iff.mp hphase
  obtain ⟨hid, front, back, hsplit, -⟩ := List.find?_eq_some_iff_append.mp hfind
  have hsees := hf.sees
  rw [hsplit] at hsees
  exact ⟨hf.numbered, hf.keeps, front, runner, back, hsplit, by simpa using hid,
    hsees.perm (perm_runnerDues ..)⟩

/-- A runner stops in a phase that tells of what is due from it. -/
theorem Midway.setPhase (phase : Phase)
    (hm : Midway P n stream made l h id phase.due?.toList) :
    Follows P n stream made l (h.setPhase id phase) := by
  obtain ⟨front, runner, back, hsplit, rfl, hsees⟩ := hm.sees
  refine ⟨hm.numbered.setPhase _ _, hm.keeps, ?_⟩
  rw [hm.numbered.runners_setPhase hsplit]
  exact (hsees.perm (perm_runnerDues front back { runner with phase } _).symm).of_tickets rfl rfl

theorem Midway.rest (phase : Phase) (hm : Midway P n stream made l h id phase.due?.toList) :
    Follows P n stream made l (h.rest id phase) :=
  (hm.setPhase phase).of_beside ⟨⟨rfl, rfl, rfl⟩, rfl⟩

/-! ## What a runner does with a message -/

/-- The runner goes on with nothing in its hand and what is left of its budget, or it stops. -/
inductive Onward (P : Channel → Prop) (n : Nat) (stream : TicketedJob D → List Object)
    (made : List (TicketedJob D)) (l : Ledger D) (id budget : Nat) : Host D × Option Nat → Prop
  | goesOn {h' : Host D} {left : Nat} (hleft : left ≤ budget)
    (hm : Midway P n stream made l h' id []) : Onward P n stream made l id budget (h', some left)
  | stops {h' : Host D} (hf : Follows P n stream made l h') :
    Onward P n stream made l id budget (h', none)

theorem Onward.mono {budget less : Nat} {x : Host D × Option Nat}
    (ho : Onward P n stream made l id less x) (hless : less ≤ budget) :
    Onward P n stream made l id budget x := by
  cases ho with
  | goesOn hleft hm => exact .goesOn (Nat.le_trans hleft hless) hm
  | stops hf => exact .stops hf

/-- A message is taken from the queue. -/
theorem Midway.taken {m : Message (TicketedJob D)} {pool : Pool (TicketedJob D)}
    (hm : Midway P n stream made l h id []) (hnext : h.pool.dequeue = some (m, pool)) :
    Midway P n stream made l { h with pool } id (m.job?.toList.map (TicketedJob.due stream)) := by
  obtain ⟨front, runner, back, hsplit, hid, hsees⟩ := hm.sees
  obtain ⟨hqueue, hpool⟩ := Pool.dequeue_some hnext
  have hjobs : h.pool.queuedJobs = m.job?.toList ++ pool.queuedJobs := by
    rw [Pool.queuedJobs, hqueue]
    cases m <;> rfl
  have hstarted : pool.started = h.pool.started := by rw [hpool]
  refine ⟨hm.numbered.of_ids rfl hstarted, hm.keeps, front, runner, back, hsplit, hid, ?_⟩
  rw [hjobs, List.append_assoc, List.map_append, List.nil_append] at hsees
  exact (hsees.perm (List.perm_append_comm_assoc _ _ _)).of_tickets rfl rfl

/-- A grow order starts a runner or does nothing. -/
theorem Midway.grown (hm : Midway P n stream made l h id []) (budget : Nat) :
    Onward P n stream made l id budget (h.follow id .grow budget) := by
  rcases Nat.lt_or_ge h.pool.runnerCount h.pool.plannedCount with hbelow | henough
  · obtain ⟨-, -, -, hstarted, hqueue⟩ := Pool.grow_of_lt hbelow
    have hmore : h.pool.started < h.pool.grow.started := hstarted ▸ Nat.lt_succ_self _
    have hjobs : h.pool.grow.queuedJobs = h.pool.queuedJobs := by
      rw [Pool.queuedJobs, hqueue, Pool.queuedJobs]
    obtain ⟨front, runner, back, hsplit, hid, hsees⟩ := hm.sees
    simp only [follow, if_pos hmore]
    refine .goesOn (Nat.le_refl _)
      (Midway.of_beside (Midway.of_beside ?_ (beside_wake _ _)) (beside_notify _))
    refine ⟨hm.numbered.joined hbelow rfl rfl, hm.keeps, front, runner,
      back ++ [⟨h.pool.grow.started, .starting⟩], ?_, hid, ?_⟩
    · show h.runners ++ _ = _
      rw [hsplit, List.append_assoc, List.cons_append]
    · have hnew : runnerDues (front ++ (back ++ [⟨h.pool.grow.started, .starting⟩])) =
          runnerDues (front ++ back) := by
        rw [← List.append_assoc, runnerDues, List.filterMap_append]
        exact List.append_nil _
      rw [hnew]
      exact hjobs ▸ hsees.of_tickets rfl rfl
  · have hsame := Pool.grow_of_le henough
    simp only [follow, hsame, Nat.lt_irrefl, if_false]
    exact .goesOn (Nat.le_refl _) (hm.of_beside ⟨⟨rfl, rfl, rfl⟩, rfl⟩)

/-- A poison ends the runner or does nothing. -/
theorem Midway.poisoned (hm : Midway P n stream made l h id []) (budget : Nat) :
    Onward P n stream made l id budget (h.follow id .poison budget) := by
  rcases Nat.lt_or_ge h.pool.plannedCount h.pool.runnerCount with habove | henough
  · obtain ⟨hexits, -, -, -, hqueue⟩ := Pool.poison_of_lt habove
    have hjobs : h.pool.poison.2.queuedJobs = h.pool.queuedJobs := by
      rw [Pool.queuedJobs, hqueue, Pool.queuedJobs]
    obtain ⟨front, runner, back, hsplit, rfl, hsees⟩ := hm.sees
    have hrecorded : Numbered
        (log { h with pool := h.pool.poison.2 } (h.pool.convergenceRecords h.pool.poison.2)) :=
      hm.numbered.of_ids rfl Pool.poison_started
    simp only [follow, hexits, if_true]
    refine .stops (Follows.of_beside ⟨hrecorded.removeRunner _, hm.keeps, ?_⟩ (beside_notify _))
    rw [hrecorded.runners_removeRunner hsplit]
    exact hjobs ▸ hsees.of_tickets rfl rfl
  · have hsame := Pool.poison_of_le henough
    simp only [follow, hsame, Bool.false_eq_true, if_false]
    exact .goesOn (Nat.le_refl _) (hm.of_beside ⟨⟨rfl, rfl, rfl⟩, rfl⟩)

section Playing

variable (hP : Channel.Stable P)
include hP

/-- A job in hand streams its events as its history is played back, and all of them before it ends.
-/
theorem Midway.play {ticket budget : Nat} {completion : Completion} {history : List Happening}
    (hm : Midway P n stream made l h id [(ticket, .running (streamed history))]) :
    Onward P n stream made l id budget (h.play id ticket completion history budget) := by
  induction history generalizing h budget with
  | nil =>
    unfold Host.play
    split
    · have hstays := Midway.setPhase (.endless ticket) hm
      exact .stops hstays
    · rename_i hends
      exact .goesOn (Nat.le_refl _) (hm.handle rfl rfl hm.keeps fun _ hsees => hsees.ended hP hends)
  | cons entry rest ih =>
    cases entry with
    | log | mark =>
      have hside : Midway P n stream made l h id [(ticket, .running (streamed rest))] := hm
      exact ih (hside.of_beside ⟨⟨rfl, rfl, rfl⟩, rfl⟩)
    | streamed event => exact ih (hm.handle rfl rfl hm.keeps fun _ hsees => hsees.sent hP)
    | sign s =>
      have hside : Midway P n stream made l h id [(ticket, .running (streamed rest))] := hm
      cases s with
      | note | recorded => exact ih (hside.of_beside ⟨⟨rfl, rfl, rfl⟩, rfl⟩)
      | wait name =>
        unfold Host.play
        dsimp only
        split
        · have htaken : Midway P n stream made l
              (h.setGate { h.gate name with permits := (h.gate name).permits - 1 }) id
              [(ticket, .running (streamed rest))] := hside.of_beside ⟨⟨rfl, rfl, rfl⟩, rfl⟩
          cases budget with
          | zero =>
            have hrests := Midway.rest (.granted ⟨ticket, rest, completion⟩) htaken
            exact .stops hrests
          | succ budget => exact (ih htaken).mono (Nat.le_succ _)
        · have hasked : Midway P n stream made l
              (h.setGate { h.gate name with waiters := (h.gate name).waiters ++ [id] }) id
              [(ticket, .running (streamed rest))] := hside.of_beside ⟨⟨rfl, rfl, rfl⟩, rfl⟩
          have hwaits := Midway.setPhase (.waiting name ⟨ticket, rest, completion⟩) hasked
          exact .stops hwaits

theorem Midway.followed {m : Message (TicketedJob D)}
    (hm : Midway P n stream made l h id (m.job?.toList.map (TicketedJob.due stream)))
    (budget : Nat) : Onward P n stream made l id budget (h.follow id m budget) := by
  cases m with
  | job j =>
    have hbegun : Midway P n stream made l h id [(j.ticket, .running (stream j))] :=
      hm.handle rfl rfl hm.keeps fun _ hsees => hsees.begun hP
    rw [hm.keeps.1 j] at hbegun
    exact hbegun.play hP
  | grow => exact hm.grown budget
  | poison => exact hm.poisoned budget

/-! ## Moves -/

/-- A runner goes from message to message until it stops. -/
theorem Midway.workWithin {rounds budget : Nat} (hm : Midway P n stream made l h id [])
    (hrounds : budget < rounds) : Follows P n stream made l (h.workWithin id rounds budget) := by
  induction rounds generalizing h budget with
  | zero => exact absurd hrounds (Nat.not_lt_zero _)
  | succ rounds ih =>
    unfold Host.workWithin
    cases hturn : h.turn with
    | none =>
      -- nobody has the turn, so the runner takes it
      have htaken : Midway P n stream made l { h with turn := some id } id [] :=
        hm.of_beside ⟨⟨rfl, rfl, rfl⟩, rfl⟩
      cases budget with
      | zero => exact Midway.rest .queueing htaken
      | succ budget => exact ih htaken (Nat.lt_of_succ_lt_succ hrounds)
    | some holder =>
      dsimp only
      split
      · cases budget with
        | zero => exact Midway.rest .receiving hm
        | succ budget =>
          dsimp only
          split
          · exact Midway.setPhase .receiving hm
          · rename_i m pool hnext
            have hheld : Beside { h with pool } { h with pool, turn := some holder } :=
              ⟨⟨rfl, rfl, rfl⟩, rfl⟩
            have hpassed := (hm.taken hnext).of_beside (hheld.trans (beside_passTurn _))
            have honward := hpassed.followed hP budget
            generalize Host.follow _ id m budget = followed at honward ⊢
            cases honward with
            | goesOn hleft hon =>
              exact ih hon (Nat.lt_of_le_of_lt hleft (Nat.lt_of_succ_lt_succ hrounds))
            | stops hf => exact hf
      · -- somebody else has it
        exact (Midway.setPhase .queueing hm).of_beside ⟨⟨rfl, rfl, rfl⟩, rfl⟩

theorem Midway.work (hm : Midway P n stream made l h id []) (budget : Nat) :
    Follows P n stream made l (h.work id budget) :=
  hm.workWithin hP (Nat.lt_succ_self budget)

/-- A runner with a job in its hand first comes to its end. -/
theorem Midway.resume {w : Work}
    (hm : Midway P n stream made l h id [(w.ticket, .running (streamed w.rest))]) (budget : Nat) :
    Follows P n stream made l (h.resume id w budget) := by
  have honward : Onward P n stream made l id budget
      (h.play id w.ticket w.completion w.rest budget) := hm.play hP
  unfold Host.resume
  generalize h.play id w.ticket w.completion w.rest budget = played at honward ⊢
  cases honward with
  | goesOn _ hon => exact hon.work hP _
  | stops hf => exact hf

theorem Follows.moveRunner (hf : Follows P n stream made l h) (id : Nat) :
    Follows P n stream made l (h.moveRunner id) := by
  unfold Host.moveRunner
  cases hphase : h.phase? id with
  | none => exact hf
  | some phase =>
    have hm := hf.midway hphase
    cases phase with
    | starting => exact hm.work hP _
    | queueing =>
      dsimp only
      split
      · exact hm.work hP _
      · exact hf
    | receiving =>
      dsimp only
      split
      · exact hm.work hP _
      · exact hf
    | waiting => exact hf
    | granted w => exact hm.resume hP _
    | endless => exact hf

/-- **Whoever moves, the host follows its channels.** -/
theorem Follows.move (hf : Follows P n stream made l h) (m : Mover) :
    Follows P n stream made l (h.move m) := by
  cases m with
  | runner id => exact hf.moveRunner hP id
  | watcher number =>
    unfold Host.move
    dsimp only
    split
    · exact hf
    · exact hf.of_beside ⟨⟨rfl, rfl, rfl⟩, rfl⟩

theorem Follows.settleWithin (hf : Follows P n stream made l h) (steps left : Nat) :
    Follows P n stream made l (h.settleWithin steps left) := by
  induction steps generalizing h left with
  | zero => exact hf
  | succ steps ih =>
    unfold Host.settleWithin
    split
    · split
      · exact hf
      · exact ih (hf.of_beside (beside_lineUp h)) _
    · exact ih (hf.of_beside (beside_lineUp h)) _
    · rename_i m rest left _
      have hready : Follows P n stream made l { h with ready := rest } :=
        hf.of_beside ⟨⟨rfl, rfl, rfl⟩, rfl⟩
      exact ih (hready.move hP m) left

end Playing

/-! ## Calls from outside -/

/-- A call that replaces the pool, and may leave the callers with other jobs. -/
theorem Follows.setPool {pool : Pool (TicketedJob D)} {left : List (TicketedJob D)}
    (hf : Follows P n stream made l h) (hstarted : pool.started = h.pool.started)
    (hjobs : (h.pool.queuedJobs ++ made).Perm (pool.queuedJobs ++ left)) :
    Follows P n stream left l (h.setPool pool) := by
  have hreplaced : Follows P n stream left l { h with pool } :=
    ⟨hf.numbered.of_ids rfl hstarted, hf.keeps,
      (hf.sees.perm ((hjobs.map _).append_left _)).of_tickets rfl rfl⟩
  exact hreplaced.of_beside (beside_setPool h pool)

theorem Follows.setRunnerCount (hf : Follows P n stream made l h) (count : Nat) :
    Follows P n stream made l (h.setRunnerCount count).2 := by
  have hlogged : Follows P n stream made l (h.log (h.pool.changeRecords count)) :=
    hf.of_beside ⟨⟨rfl, rfl, rfl⟩, rfl⟩
  unfold Host.setRunnerCount
  dsimp only
  split
  · rename_i pool hset
    obtain ⟨-, -, -, -, hqueue⟩ := Pool.setRunnerCount_ok hset
    have hjobs : pool.queuedJobs = h.pool.queuedJobs :=
      Crew.queuedJobs_of_queue (by rw [hqueue, List.append_assoc]; rfl) (by simp)
    exact hlogged.setPool (Pool.setRunnerCount_started hset) (hjobs ▸ .refl _)
  · exact hlogged

theorem Follows.beginShutdown (hf : Follows P n stream made l h) :
    Follows P n stream made l h.beginShutdown := by
  have hlogged : Follows P n stream made l (h.log h.pool.shutdownRecords) :=
    hf.of_beside ⟨⟨rfl, rfl, rfl⟩, rfl⟩
  have hjobs : h.pool.beginShutdown.queuedJobs = h.pool.queuedJobs := by
    cases hshut : h.pool.shuttingDown with
    | true => rw [Pool.beginShutdown_of_shuttingDown hshut]
    | false =>
      obtain ⟨-, -, -, hqueue⟩ := Pool.beginShutdown_of_open hshut
      exact Crew.queuedJobs_of_queue hqueue (by simp)
  exact hlogged.setPool Pool.beginShutdown_started (hjobs ▸ .refl _)

/-- The runner that gets the permit keeps its job. -/
theorem Follows.openGate (hf : Follows P n stream made l h) (gate : String) :
    Follows P n stream made l (h.openGate gate) := by
  unfold Host.openGate
  dsimp only
  split
  · exact hf.of_beside ⟨⟨rfl, rfl, rfl⟩, rfl⟩
  · rename_i id rest _
    have hgate : Follows P n stream made l (h.setGate { h.gate gate with waiters := rest }) :=
      hf.of_beside ⟨⟨rfl, rfl, rfl⟩, rfl⟩
    split
    · rename_i work hphase
      have hwaits := hgate.midway hphase
      exact (Midway.setPhase (.granted work) hwaits).of_beside (beside_wake _ _)
    · exact hgate

/-- A job that its caller has. -/
theorem perm_made (stream : TicketedJob D → List Object) (runners : List Runner)
    (queued before after : List (TicketedJob D)) (j : TicketedJob D) :
    (runnerDues runners ++ (queued ++ (before ++ j :: after)).map (TicketedJob.due stream)).Perm
      (j.due stream ::
        (runnerDues runners ++ (queued ++ (before ++ after)).map (TicketedJob.due stream))) := by
  have hjobs : (queued ++ (before ++ j :: after)).Perm (j :: (queued ++ (before ++ after))) :=
    (List.perm_middle.append_left queued).trans List.perm_middle
  exact ((hjobs.map _).append_left _).trans List.perm_middle

theorem Follows.discard {before after : List (TicketedJob D)} {j : TicketedJob D}
    (hP : Channel.Stable P) (hf : Follows P n stream (before ++ j :: after) l h) :
    Follows P n stream (before ++ after) (l.drop [j.ticket]) (h.lose j.ticket) :=
  ⟨hf.numbered.of_ids rfl rfl, hf.keeps, (hf.sees.perm (perm_made ..)).lost hP⟩

theorem Follows.submit_ok {before after : List (TicketedJob D)} {j : TicketedJob D}
    (hf : Follows P n stream (before ++ j :: after) l h) (hok : (h.submit j).1 = .ok ()) :
    Follows P n stream (before ++ after) l (h.submit j).2 := by
  unfold Host.submit at hok ⊢
  cases hsubmit : h.pool.submit j with
  | error e =>
    rw [hsubmit] at hok
    cases hok
  | ok pool =>
    obtain ⟨-, rfl⟩ := Pool.submit_ok hsubmit
    refine hf.setPool rfl ?_
    have hjobs : (h.pool.enqueue [.job j]).queuedJobs = h.pool.queuedJobs ++ [j] :=
      List.filterMap_append
    rw [hjobs, List.append_assoc]
    exact List.perm_middle.append_left _

theorem Follows.submit_error {before after : List (TicketedJob D)} {j : TicketedJob D}
    (hP : Channel.Stable P) (hf : Follows P n stream (before ++ j :: after) l h) {e : EngineError}
    (hrefused : (h.submit j).1 = .error e) :
    Follows P n stream (before ++ after) (l.drop [j.ticket]) (h.submit j).2 := by
  unfold Host.submit at hrefused ⊢
  cases hsubmit : h.pool.submit j with
  | ok pool =>
    rw [hsubmit] at hrefused
    cases hrefused
  | error e =>
    have hlogged : Follows P n stream (before ++ j :: after) l
        (h.log [.jobRejected j.job.info.token]) := hf.of_beside ⟨⟨rfl, rfl, rfl⟩, rfl⟩
    exact hlogged.discard hP

/-- The jobs of a queue that is dropped are dropped. -/
theorem Follows.dropQueue (hP : Channel.Stable P) (hf : Follows P n stream made l h) :
    Follows P n stream made (l.drop (h.pool.queuedJobs.map (·.ticket))) h.dropQueue := by
  have hsees : Sees P n l { h with pool := { h.pool with queue := [] } }
      (h.pool.queuedJobs.map (TicketedJob.due stream) ++
        (runnerDues h.runners ++ made.map (TicketedJob.due stream))) := by
    have hdues := hf.sees
    rw [List.map_append] at hdues
    exact (hdues.perm (List.perm_append_comm_assoc _ _ _)).of_tickets rfl rfl
  have hlost := hsees.lostAll hP
  rw [dropQueue_eq]
  obtain ⟨written, hwritten⟩ := lose_keeps (h.pool.queuedJobs.map (·.ticket))
    { h with pool := { h.pool with queue := [] } }
  rw [hwritten] at hlost ⊢
  exact ⟨hf.numbered.of_ids rfl rfl, hf.keeps, hlost⟩

/-- A caller makes a job. -/
theorem Follows.ticketFor (hf : Follows P n stream made l h) (job : Job D)
    (hfresh : h.issued = n → P (.fresh (stream ⟨n, job⟩))) :
    Follows P n stream (made ++ [(h.ticketFor job).1]) (l.make job) (h.ticketFor job).2 := by
  have hissued : h.issued + 1 = (l.jobs ++ [job]).length := by
    rw [List.length_append, ← hf.keeps.2]
    rfl
  refine ⟨hf.numbered.of_ids rfl rfl, ⟨hf.keeps.1, hissued⟩, ?_⟩
  have hnew : h.issued = n → P (.fresh (stream ⟨h.issued, job⟩)) := fun hn => hn ▸ hfresh hn
  have hperm := (perm_made stream h.runners h.pool.queuedJobs made [] ⟨h.issued, job⟩).symm
  rw [List.append_nil] at hperm
  exact (hf.sees.made job hnew).perm hperm

/-- A caller receives an event. -/
theorem Follows.received (hP : Channel.Stable P) (hf : Follows P n stream made l h)
    (ticket : Nat) :
    Follows P n stream made (l.receive ticket (h.receiveEvent ticket).1)
      (h.receiveEvent ticket).2 :=
  ⟨hf.numbered.of_ids rfl rfl, hf.keeps, hf.sees.received hP ticket⟩

theorem Holds.due?_eq_none {ends : TicketedJob D → Completion} {phase : Phase}
    (hholds : Holds ends phase none) : phase.due? = none := by
  cases hholds <;> rfl

/-- Nothing is due from runners that have nothing in their hands. -/
theorem Hands.runnerDues_eq_nil {ends : TicketedJob D → Completion} {runners : List Runner}
    {count : Nat} (hh : Hands ends runners (List.replicate count none)) :
    runnerDues runners = [] := by
  induction count generalizing runners with
  | zero =>
    obtain rfl := List.forall₂_nil_right_iff.mp hh
    rfl
  | succ count ih =>
    cases hh with
    | @cons runner _ rest _ hhand hrest =>
      have hnone : runnerDues (runner :: rest) = runnerDues rest :=
        List.filterMap_cons_none (Holds.due?_eq_none hhand)
      exact hnone.trans (ih hrest)

/-- Nothing is due from a new host. -/
theorem follows_start {registry : Registry D} {config : HostConfig} {observed : Observed}
    (hstart : start registry config observed = .ok h)
    (hstream : ∀ j, stream j = streamed (j.job.process registry config.party).run.history) :
    Follows P n stream [] ⟨[], [], []⟩ h := by
  obtain ⟨w, -, hmirrors⟩ := mirrors_start hstart
  obtain ⟨-, base, hnone, hbase, hempty, rfl⟩ := start_ok hstart
  obtain ⟨hpool, hbooks, -, hhands⟩ := first_runners hnone config.runnerCount
  have hnothing := (hhands : Hands w.ending _ _).runnerDues_eq_nil
  rw [hempty] at hbooks
  generalize (List.range config.runnerCount).foldl _ base = g at *
  simp only [books, Prod.mk.injEq] at hbooks
  obtain ⟨hregistry, hparty, hissued, htickets⟩ := hbooks
  have hjobs : g.pool.queuedJobs = [] := by
    rw [hpool, hbase]
    rfl
  refine ⟨hmirrors.numbered, ⟨fun j => by rw [hstream, hregistry, hparty], hissued⟩, ?_⟩
  rw [hnothing, hjobs]
  have htickets : g.tickets = [] := List.map_eq_nil_iff.mp htickets
  refine .unissued (hissued ▸ Nat.zero_le n) ?_ rfl rfl List.not_mem_nil
  rw [ticket?, htickets]
  rfl

end Host
end CommandEngine
