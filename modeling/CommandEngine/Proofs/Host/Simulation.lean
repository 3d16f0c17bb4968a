import CommandEngine.Proofs.Crew.Coverage
import CommandEngine.Proofs.Host.Mirror
import CommandEngine.Proofs.Workshop.Ledger
import Mathlib.Logic.Relation

/-!
# A host at work is a workshop at work

A host lets its runners take turns, one at a time and each as long as its budget goes.  This is one
of the orders in which a workshop may move: every state that a host comes to is that of a workshop
(`Host.exists_workshop`), and what is true of all runs of workshops, and so of crews, is true of
hosts.

A move of a host's runner is several moves of the workshop's.  The runner takes a message and
follows it, and so on, until it stops in a phase that tells of its hand again; a job that waits
stays in the hand, and the runner follows it when it was given its permit and the job comes to its
end.
-/
namespace CommandEngine
namespace Host

variable {D : Type} {h h' : Host D} {id : Nat} {w : Workshop D}
  {l r : List (Option (Message (TicketedJob D)))} {hand : Option (Message (TicketedJob D))}
  {phase : Phase} {made : List (TicketedJob D)}

/-! ## What a runner does with a message -/

/-- How the following of a message ends: the runner goes on with an empty hand and what is left of
its budget, or it stops. -/
inductive Followed (id budget : Nat) (made : List (TicketedJob D)) (w : Workshop D) :
    Host D × Option Nat → Prop
  | goesOn {h' : Host D} {left : Nat} {l r : List (Option (Message (TicketedJob D)))}
      (hleft : left ≤ budget) (hm : Moving h' id l r none made w) :
      Followed id budget made w (h', some left)
  | stops {h' : Host D} (hm : Mirrors h' made w) : Followed id budget made w (h', none)

theorem Moving.taken {m : Message (TicketedJob D)} {pool : Pool (TicketedJob D)}
    (hm : Moving h id l r none made w) (hnext : h.pool.dequeue = some (m, pool)) :
    ∃ w', w.Reaches w' ∧ Moving { h with pool } id l r (some m) made w' := by
  have hstarted : pool.started = h.pool.started := by
    rw [(Pool.dequeue_some hnext).2]
  refine ⟨_, Workshop.reaches_taken hm.hands (hm.pool ▸ hnext), ?_⟩
  exact ⟨⟨⟨hm.numbered.nodup, hstarted ▸ hm.numbered.started⟩, rfl, hm.books, hm.made,
    hm.unreleased⟩, rfl, hm.runners⟩

/-- A runner that was just started has the highest number. -/
theorem Numbered.joined (hn : Numbered h) (hbelow : h.pool.runnerCount < h.pool.plannedCount)
    (hpool : h'.pool = h.pool.grow)
    (hrunners : h'.runners = h.runners ++ [⟨h.pool.grow.started, .starting⟩]) : Numbered h' := by
  obtain ⟨-, -, -, hstarted, -⟩ := Pool.grow_of_lt hbelow
  have hids : h'.ids = h.ids ++ [h.pool.started + 1] := by
    rw [ids, ids, hrunners, List.map_append, ← hstarted]
    rfl
  constructor
  · rw [hids, List.nodup_append]
    refine ⟨hn.nodup, List.nodup_cons.mpr ⟨List.not_mem_nil, .nil⟩, ?_⟩
    intro id hid new hnew
    have hle := hn.started id hid
    rw [List.mem_singleton.mp hnew]
    omega
  · intro id hid
    rw [hids, List.mem_append, List.mem_singleton] at hid
    rw [hpool, hstarted]
    rcases hid with hid | rfl
    · exact Nat.le_succ_of_le (hn.started id hid)
    · exact Nat.le_refl _

/-- A grow order starts a runner or does nothing. -/
theorem Moving.grown (hm : Moving h id l r (some .grow) made w) (budget : Nat) :
    ∃ w', w.Reaches w' ∧ Followed id budget made w' (h.follow id .grow budget) := by
  refine ⟨_, Workshop.reaches_followed hm.hands rfl, ?_⟩
  obtain ⟨front, runner, back, hsplit, hid, hfront, hback⟩ := hm.runners
  rcases Nat.lt_or_ge h.pool.runnerCount h.pool.plannedCount with hbelow | henough
  · have hstarted : h.pool.started < h.pool.grow.started := by
      rw [(Pool.grow_of_lt hbelow).2.2.2.1]
      exact Nat.lt_succ_self _
    simp only [follow, if_pos hstarted]
    refine .goesOn (Nat.le_refl _) (l := l) (r := r ++ [none]) ?_
    refine Moving.of_aside (Moving.of_aside ?_ (aside_wake _ _)) (aside_notify _)
    refine ⟨⟨hm.numbered.joined hbelow rfl rfl, ?_, hm.books, hm.made, hm.unreleased⟩, ?_, ?_⟩
    · simp only [Crew.follow, hm.pool]
      rfl
    · simp [Crew.follow, hm.pool, hm.hands, hstarted]
    · refine ⟨front, runner, back ++ [⟨h.pool.grow.started, .starting⟩], ?_, hid, hfront, ?_⟩
      · show h.runners ++ _ = _
        rw [hsplit, List.append_assoc, List.cons_append]
      · exact List.rel_append hback (.cons .starting .nil)
  · have hsame := Pool.grow_of_le henough
    simp only [follow, hsame, Nat.lt_irrefl, if_false]
    refine .goesOn (Nat.le_refl _) (l := l) (r := r) ?_
    refine ⟨⟨hm.numbered.of_aside ⟨rfl, rfl, rfl⟩, ?_, hm.books, hm.made, hm.unreleased⟩, ?_,
      hm.runners⟩
    · simp only [Crew.follow, hm.pool, hsame]
      rfl
    · simp [Crew.follow, hm.pool, hm.hands, hsame]

/-- A poison ends the runner or does nothing. -/
theorem Moving.poisoned (hm : Moving h id l r (some .poison) made w) (budget : Nat) :
    ∃ w', w.Reaches w' ∧ Followed id budget made w' (h.follow id .poison budget) := by
  refine ⟨_, Workshop.reaches_followed hm.hands rfl, ?_⟩
  rcases Nat.lt_or_ge h.pool.plannedCount h.pool.runnerCount with habove | henough
  · obtain ⟨hexits, -, -, -, -⟩ := Pool.poison_of_lt habove
    simp only [follow, hexits, if_true]
    refine .stops (Mirrors.of_aside ?_ (aside_notify _))
    obtain ⟨front, runner, back, hsplit, rfl, hfront, hback⟩ := hm.runners
    have hrecorded : Numbered
        (log { h with pool := h.pool.poison.2 } (h.pool.convergenceRecords h.pool.poison.2)) :=
      hm.numbered.of_ids rfl Pool.poison_started
    have herase : (l ++ some Message.poison :: r).eraseIdx l.length = l ++ r := by
      rw [List.eraseIdx_append_of_length_le (Nat.le_refl _), Nat.sub_self]
      rfl
    have hleft : (w.crew.follow l.length .poison).hands = l ++ r := by
      simp only [Crew.follow, hm.pool, hm.hands, hexits, if_true, herase]
    refine ⟨⟨hrecorded.removeRunner _, ?_, hm.books, hm.made, hm.unreleased⟩, ?_⟩
    · simp only [Crew.follow, hm.pool]
      rfl
    · rw [hrecorded.runners_removeRunner hsplit, hleft]
      exact List.rel_append hfront hback
  · have hsame := Pool.poison_of_le henough
    simp only [follow, hsame, Bool.false_eq_true, if_false]
    refine .goesOn (Nat.le_refl _) (l := l) (r := r) ?_
    refine ⟨⟨hm.numbered.of_aside ⟨rfl, rfl, rfl⟩, ?_, hm.books, hm.made, hm.unreleased⟩, ?_,
      hm.runners⟩
    · simp only [Crew.follow, hm.pool, hsame]
      rfl
    · simp [Crew.follow, hm.pool, hm.hands, hsame]

/-! ## Jobs -/

/-- How the playback of a job ends: the job is done, with some of the budget left, or the runner
stops with the job in its hand. -/
inductive Played (h : Host D) (id ticket : Nat) (completion : Completion) (budget : Nat) :
    Host D × Option Nat → Prop
  | done {h' : Host D} {left : Nat} (hside : Aside h h') (hends : completion ≠ .pending)
      (hleft : left ≤ budget) :
    Played h id ticket completion budget (h'.complete ticket completion, some left)
  | stopped {h' : Host D} {phase : Phase} (hside : Aside (h.setPhase id phase) h')
      (hholds : ∀ (ends : TicketedJob D → Completion) (j : TicketedJob D), j.ticket = ticket →
        ends j = completion → Holds ends phase (some (.job j))) :
    Played h id ticket completion budget (h', none)

theorem Played.of_aside {ticket budget less : Nat} {completion : Completion}
    {x : Host D × Option Nat} (hplayed : Played h' id ticket completion less x)
    (hside : Aside h h') (hless : less ≤ budget) : Played h id ticket completion budget x := by
  cases hplayed with
  | done hside' hends hleft => exact .done (hside.trans hside') hends (Nat.le_trans hleft hless)
  | stopped hside' hholds => exact .stopped ((hside.setPhase id _).trans hside') hholds

/-- The caller of a job is sent an event. -/
theorem aside_streamed (h : Host D) (ticket : Nat) (event : Object) :
    Aside h (h.updateTicket ticket fun t => { t with events := t.events ++ [event] }) := by
  have hkept := completions_updateTicket h ticket
    (f := fun t => { t with events := t.events ++ [event] }) fun _ => ⟨rfl, rfl⟩
  exact ⟨rfl, rfl, congrArg (fun tickets => (h.registry, h.party, h.issued, tickets)) hkept⟩

theorem played_play (h : Host D) (id ticket : Nat) (completion : Completion)
    (history : List Happening) (budget : Nat) :
    Played h id ticket completion budget (h.play id ticket completion history budget) := by
  induction history generalizing h budget with
  | nil =>
    unfold play
    split
    · rename_i hpending
      refine .stopped ⟨rfl, rfl, rfl⟩ fun ends j hticket hends => ?_
      exact hticket ▸ .endless (hends.trans hpending)
    · rename_i hends
      exact .done (.refl h) hends (Nat.le_refl _)
  | cons entry rest ih =>
    have hgo : ∀ (g : Host D) (less : Nat), Aside h g → less ≤ budget →
        Played h id ticket completion budget (g.play id ticket completion rest less) :=
      fun g less hside hless => (ih g less).of_aside hside hless
    cases entry with
    | log | mark => exact hgo _ _ ⟨rfl, rfl, rfl⟩ (Nat.le_refl _)
    | streamed event => exact hgo _ _ (aside_streamed h ticket event) (Nat.le_refl _)
    | sign s =>
      cases s with
      | note | recorded => exact hgo _ _ ⟨rfl, rfl, rfl⟩ (Nat.le_refl _)
      | wait name =>
        unfold play
        dsimp only
        split
        · cases budget with
          | zero => exact .stopped ⟨rfl, rfl, rfl⟩ fun _ j hticket hends => .granted hticket hends
          | succ budget => exact hgo _ _ ⟨rfl, rfl, rfl⟩ (Nat.le_succ _)
        · exact .stopped ⟨rfl, rfl, rfl⟩ fun _ j hticket hends => .waiting hticket hends

/-- The workshop writes how a job stands as the host does. -/
theorem books_complete (hbooks : w.books = h.books) (ticket : Nat) (completion : Completion) :
    { w with tickets := Workshop.write ticket completion w.tickets }.books =
      (h.complete ticket completion).books := by
  obtain ⟨hregistry, hparty, hissued, htickets⟩ := books_eq hbooks
  have hlength : (Workshop.write ticket completion w.tickets).length = w.tickets.length :=
    List.length_map _
  have hwritten : Workshop.write ticket completion w.tickets =
      (h.complete ticket completion).completions := by
    rw [htickets, completions_complete]
    rfl
  unfold Workshop.books Host.books
  rw [hlength, hissued, hwritten, hregistry, hparty]
  rfl

/-- A job that ends is finished: its ticket is completed and its runner's hand is empty. -/
theorem Moving.finished {completion : Completion} {j : TicketedJob D}
    (hm : Moving h id l r (some (.job j)) made w) (hjob : w.ending j = completion)
    (hends : completion ≠ .pending) :
    ∃ w', w.Reaches w' ∧ Moving (h.complete j.ticket completion) id l r none made w' := by
  obtain ⟨report, hreport, hcompletion⟩ :
      ∃ report, w.processed j = some report ∧ completion = .ofRun (some report) := by
    unfold Workshop.ending at hjob
    cases hprocessed : w.processed j with
    | none =>
      rw [hprocessed] at hjob
      exact absurd hjob.symm hends
    | some report =>
      rw [hprocessed] at hjob
      exact ⟨report, rfl, hjob.symm⟩
  have hfollow : w.follow l.length (.job j) = some { w with
      crew := w.crew.follow l.length (.job j)
      tickets := Workshop.write j.ticket completion w.tickets } := by
    simp only [Workshop.follow, hreport, hcompletion]
  refine ⟨_, Workshop.reaches_followed hm.hands hfollow, ⟨hm.numbered.of_ids rfl rfl, hm.pool, ?_,
    hm.made, hm.unreleased⟩, by simp [Crew.follow, hm.hands], hm.runners⟩
  exact books_complete hm.books j.ticket completion

/-- A job in hand is played back to its end or kept. -/
theorem Moving.played {ticket budget : Nat} {completion : Completion} {j : TicketedJob D}
    {x : Host D × Option Nat} (hm : Moving h id l r (some (.job j)) made w)
    (hticket : j.ticket = ticket) (hjob : w.ending j = completion)
    (hplayed : Played h id ticket completion budget x) :
    ∃ w', w.Reaches w' ∧ Followed id budget made w' x := by
  cases hplayed with
  | done hside hends hleft =>
    obtain ⟨w', hreach, hfinished⟩ := (hm.of_aside hside).finished hjob hends
    exact ⟨w', hreach, .goesOn hleft (hticket ▸ hfinished)⟩
  | stopped hside hholds =>
    exact ⟨w, .refl w, .stops ((hm.setPhase (hholds _ j hticket hjob)).of_aside hside)⟩

theorem Moving.followed {m : Message (TicketedJob D)} (hm : Moving h id l r (some m) made w)
    (budget : Nat) : ∃ w', w.Reaches w' ∧ Followed id budget made w' (h.follow id m budget) := by
  cases m with
  | job j => exact hm.played rfl (hm.toShares.ending_eq j) (played_play ..)
  | grow => exact hm.grown budget
  | poison => exact hm.poisoned budget

/-! ## Moves -/

/-- A runner goes from message to message until it stops.  Each round costs some of the budget, so
the rounds do not run out. -/
theorem Moving.workWithin {rounds budget : Nat} (hm : Moving h id l r none made w)
    (hrounds : budget < rounds) :
    ∃ w', w.Reaches w' ∧ Mirrors (h.workWithin id rounds budget) made w' := by
  induction rounds generalizing h budget l r w with
  | zero => exact absurd hrounds (Nat.not_lt_zero _)
  | succ rounds ih =>
    unfold Host.workWithin
    cases hturn : h.turn with
    | none =>
      -- nobody has the turn, so the runner takes it
      have htaken : Moving { h with turn := some id } id l r none made w :=
        hm.of_aside ⟨rfl, rfl, rfl⟩
      cases budget with
      | zero => exact ⟨w, .refl w, (htaken.setPhase .queueing).of_aside ⟨rfl, rfl, rfl⟩⟩
      | succ budget => exact ih htaken (Nat.lt_of_succ_lt_succ hrounds)
    | some holder =>
      dsimp only
      split
      · cases budget with
        | zero => exact ⟨w, .refl w, (hm.setPhase .receiving).of_aside ⟨rfl, rfl, rfl⟩⟩
        | succ budget =>
          dsimp only
          split
          · exact ⟨w, .refl w, hm.setPhase .receiving⟩
          · rename_i m pool hnext
            obtain ⟨w₁, hreach₁, htaken⟩ := hm.taken hnext
            have hpassed : Moving (passTurn { h with pool, turn := some holder }) id l r
                (some m) made w₁ :=
              (htaken.of_aside ⟨rfl, rfl, rfl⟩).of_aside (aside_passTurn _)
            obtain ⟨w₂, hreach₂, hfollowed⟩ := hpassed.followed budget
            generalize Host.follow _ id m budget = followed at hfollowed ⊢
            cases hfollowed with
            | goesOn hleft hon =>
              obtain ⟨w₃, hreach₃, hmirrors⟩ :=
                ih hon (Nat.lt_of_le_of_lt hleft (Nat.lt_of_succ_lt_succ hrounds))
              exact ⟨w₃, hreach₁.trans (hreach₂.trans hreach₃), hmirrors⟩
            | stops hmirrors => exact ⟨w₂, hreach₁.trans hreach₂, hmirrors⟩
      · -- somebody else has it
        exact ⟨w, .refl w, (hm.setPhase .queueing).of_aside ⟨rfl, rfl, rfl⟩⟩

theorem Moving.work (hm : Moving h id l r none made w) (budget : Nat) :
    ∃ w', w.Reaches w' ∧ Mirrors (h.work id budget) made w' :=
  hm.workWithin (Nat.lt_succ_self budget)

/-- A runner with a job in its hand first comes to its end. -/
theorem Moving.resume {work : Work} {j : TicketedJob D}
    (hm : Moving h id l r (some (.job j)) made w) (hticket : j.ticket = work.ticket)
    (hends : w.ending j = work.completion) (budget : Nat) :
    ∃ w', w.Reaches w' ∧ Mirrors (h.resume id work budget) made w' := by
  obtain ⟨w₁, hreach₁, hplayed⟩ := hm.played hticket hends
    (played_play h id work.ticket work.completion work.rest budget)
  unfold Host.resume
  generalize h.play id work.ticket work.completion work.rest budget = played at hplayed ⊢
  cases hplayed with
  | goesOn _ hon =>
    obtain ⟨w₂, hreach₂, hmirrors⟩ := hon.work _
    exact ⟨w₂, hreach₁.trans hreach₂, hmirrors⟩
  | stops hmirrors => exact ⟨w₁, hreach₁, hmirrors⟩

/-- **Whoever moves, the workshop can follow.** -/
theorem Mirrors.move (hm : Mirrors h made w) (m : Mover) :
    ∃ w', w.Reaches w' ∧ Mirrors (h.move m) made w' := by
  cases m with
  | watcher number =>
    refine ⟨w, .refl w, ?_⟩
    unfold Host.move
    dsimp only
    split
    · exact hm
    · exact hm.of_aside ⟨rfl, rfl, rfl⟩
  | runner id =>
    show ∃ w', w.Reaches w' ∧ Mirrors (h.moveRunner id) made w'
    unfold moveRunner
    cases hphase : h.phase? id with
    | none => exact ⟨w, .refl w, hm⟩
    | some phase =>
      obtain ⟨l, r, hand, hholds, hmoving⟩ := hm.moving hphase
      cases hholds with
      | starting => exact hmoving.work _
      | queueing =>
        dsimp only
        split
        · exact hmoving.work _
        · exact ⟨w, .refl w, hm⟩
      | receiving =>
        dsimp only
        split
        · exact hmoving.work _
        · exact ⟨w, .refl w, hm⟩
      | waiting => exact ⟨w, .refl w, hm⟩
      | granted hticket hends => exact hmoving.resume hticket hends _
      | endless => exact ⟨w, .refl w, hm⟩

theorem Mirrors.settleWithin (hm : Mirrors h made w) (steps left : Nat) :
    ∃ w', w.Reaches w' ∧ Mirrors (h.settleWithin steps left) made w' := by
  induction steps generalizing h w left with
  | zero => exact ⟨w, .refl w, hm⟩
  | succ steps ih =>
    unfold Host.settleWithin
    split
    · split
      · exact ⟨w, .refl w, hm⟩
      · exact ih (hm.of_aside (aside_lineUp h)) _
    · exact ih (hm.of_aside (aside_lineUp h)) _
    · rename_i m rest left _
      have hready : Mirrors { h with ready := rest } made w := hm.of_aside ⟨rfl, rfl, rfl⟩
      obtain ⟨w₁, hreach₁, hmoved⟩ := hready.move m
      obtain ⟨w₂, hreach₂, hmirrors⟩ := ih hmoved left
      exact ⟨w₂, hreach₁.trans hreach₂, hmirrors⟩

/-! ## Calls from outside -/

/-- A call that replaces the pool and takes jobs from their callers. -/
theorem Mirrors.setPool {pool : Pool (TicketedJob D)} {crew : Crew (TicketedJob D)}
    {left : List (TicketedJob D)} (hm : Mirrors h made w)
    (hstarted : pool.started = h.pool.started) (hpool : crew.pool = pool)
    (hhands : crew.hands = w.crew.hands) :
    Mirrors (h.setPool pool) left { w with crew, made := left } := by
  have hreplaced : Mirrors { h with pool } left { w with crew, made := left } :=
    ⟨⟨hm.numbered.of_ids rfl hstarted, hpool, hm.books, rfl, hm.unreleased⟩, hhands ▸ hm.hands⟩
  exact hreplaced.of_aside (aside_setPool h pool)

theorem Mirrors.setRunnerCount (hm : Mirrors h made w) (n : Nat) :
    ∃ w', w.Reaches w' ∧ Mirrors (h.setRunnerCount n).2 made w' := by
  have hlogged : Mirrors (h.log (h.pool.changeRecords n)) made w := hm.of_aside ⟨rfl, rfl, rfl⟩
  unfold Host.setRunnerCount
  dsimp only
  split
  · rename_i pool hset
    have hstep : w.step (.setRunnerCount n) =
        some { w with crew := { w.crew with pool, lastAccepted := n }, made } := by
      have hset : h.pool.setRunnerCount n = .ok pool := hset
      simp [Workshop.step, Workshop.direct, Crew.step, hm.pool, hset, ← hm.made]
    exact ⟨_, .of_step hstep, hlogged.setPool (Pool.setRunnerCount_started hset) rfl rfl⟩
  · exact ⟨w, .refl w, hlogged⟩

theorem Mirrors.beginShutdown (hm : Mirrors h made w) :
    ∃ w', w.Reaches w' ∧ Mirrors h.beginShutdown made w' := by
  have hlogged : Mirrors (h.log h.pool.shutdownRecords) made w := hm.of_aside ⟨rfl, rfl, rfl⟩
  have hstep : w.step .beginShutdown =
      some { w with crew := { w.crew with pool := h.pool.beginShutdown }, made } := by
    simp [Workshop.step, Workshop.direct, Crew.step, hm.pool, ← hm.made]
  exact ⟨_, .of_step hstep, hlogged.setPool Pool.beginShutdown_started rfl rfl⟩

/-- The workshop issues the tickets that the host issues. -/
theorem books_make (hbooks : w.books = h.books) (hmade : w.made = made) (job : Job D) :
    (w.make job).books = (h.ticketFor job).2.books ∧
      (w.make job).made = made ++ [(h.ticketFor job).1] := by
  obtain ⟨hregistry, hparty, hissued, htickets⟩ := books_eq hbooks
  have hcompletions : (h.ticketFor job).2.completions = h.completions ++ [(h.issued, .pending)] :=
    List.map_append
  constructor
  · unfold Workshop.books Host.books
    rw [hcompletions, ← htickets]
    simp [Workshop.make, Host.ticketFor, hregistry, hparty, hissued]
  · simp [Workshop.make, Host.ticketFor, hmade, hissued]

/-- A caller makes a job. -/
theorem Mirrors.ticketFor (hm : Mirrors h made w) (job : Job D) :
    ∃ w', w.Reaches w' ∧ Mirrors (h.ticketFor job).2 (made ++ [(h.ticketFor job).1]) w' := by
  obtain ⟨hbooks, hmade⟩ := books_make hm.books hm.made job
  exact ⟨w.make job, .of_step (m := .make job) rfl,
    ⟨hm.numbered.of_ids rfl rfl, hm.pool, hbooks, hmade, hm.unreleased⟩, hm.hands⟩

section Taken

variable {before after : List (TicketedJob D)} {j : TicketedJob D}

/-- A job is taken from its caller and lost. -/
theorem Mirrors.lose (hm : Mirrors h (before ++ j :: after) w) {refused discarded : List _} :
    Mirrors (h.lose j.ticket) (before ++ after) { w with
      made := before ++ after
      refused
      discarded
      tickets := Workshop.write j.ticket .lost w.tickets } :=
  ⟨⟨hm.numbered.of_ids rfl rfl, hm.pool, books_complete hm.books j.ticket .lost, rfl,
    hm.unreleased⟩, hm.hands⟩

/-- The caller of a job may drop it. -/
theorem reaches_discarded (hmade : w.made = before ++ j :: after) : w.Reaches { w with
    made := before ++ after
    discarded := w.discarded ++ [j]
    tickets := Workshop.write j.ticket .lost w.tickets } := by
  refine .of_step (m := .discard before.length) ?_
  simp [Workshop.step, hmade, List.eraseIdx_append_of_length_le]

theorem Mirrors.discard (hm : Mirrors h (before ++ j :: after) w) :
    ∃ w', w.Reaches w' ∧ Mirrors (h.lose j.ticket) (before ++ after) w' :=
  ⟨_, reaches_discarded hm.made, hm.lose⟩

theorem Mirrors.submit (hm : Mirrors h (before ++ j :: after) w) :
    ∃ w', w.Reaches w' ∧ Mirrors (h.submit j).2 (before ++ after) w' := by
  have hstep : w.step (.submit before.length) =
      some ({ w with made := before ++ after }.submit j) := by
    simp [Workshop.step, hm.made, List.eraseIdx_append_of_length_le]
  refine ⟨_, .of_step hstep, ?_⟩
  unfold Host.submit Workshop.submit
  cases hsubmit : h.pool.submit j with
  | ok pool =>
    simp only [hm.pool, hsubmit]
    refine hm.setPool ?_ rfl rfl
    rw [(Pool.submit_ok hsubmit).2]
    rfl
  | error e =>
    simp only [hm.pool, hsubmit]
    have hlogged : Mirrors (h.log [.jobRejected j.job.info.token]) (before ++ j :: after) w :=
      hm.of_aside ⟨rfl, rfl, rfl⟩
    exact hlogged.lose

end Taken

/-- The runner that gets the permit keeps its job. -/
theorem Mirrors.openGate (hm : Mirrors h made w) (gate : String) :
    Mirrors (h.openGate gate) made w := by
  unfold Host.openGate
  dsimp only
  split
  · exact hm.of_aside ⟨rfl, rfl, rfl⟩
  · rename_i id rest _
    have hgate : Mirrors (h.setGate { h.gate gate with waiters := rest }) made w :=
      hm.of_aside ⟨rfl, rfl, rfl⟩
    split
    · rename_i hphase
      obtain ⟨l, r, hand, hholds, hmoving⟩ := hgate.moving hphase
      cases hholds with
      | waiting hticket hends =>
        exact (hmoving.setPhase (.granted hticket hends)).of_aside (aside_wake _ _)
    · exact hgate

/-! ## The main result -/

/-- What can happen to a host and to the jobs that callers have: the calls that concern the pool or
the jobs, the moves of everyone who can move, and whatever concerns none of them. -/
inductive Change : Host D × List (TicketedJob D) → Host D × List (TicketedJob D) → Prop
  | made (h : Host D) (made : List (TicketedJob D)) (job : Job D) :
    Change (h, made) ((h.ticketFor job).2, made ++ [(h.ticketFor job).1])
  | submitted (h : Host D) (before after : List (TicketedJob D)) (j : TicketedJob D) :
    Change (h, before ++ j :: after) ((h.submit j).2, before ++ after)
  | discarded (h : Host D) (before after : List (TicketedJob D)) (j : TicketedJob D) :
    Change (h, before ++ j :: after) (h.lose j.ticket, before ++ after)
  | replanned (h : Host D) (made : List (TicketedJob D)) (n : Nat) :
    Change (h, made) ((h.setRunnerCount n).2, made)
  | shutdown (h : Host D) (made : List (TicketedJob D)) : Change (h, made) (h.beginShutdown, made)
  | opened (h : Host D) (made : List (TicketedJob D)) (gate : String) :
    Change (h, made) (h.openGate gate, made)
  | settled (h : Host D) (made : List (TicketedJob D)) : Change (h, made) (h.settle, made)
  | aside {h h' : Host D} (hside : Aside h h') (made : List (TicketedJob D)) :
    Change (h, made) (h', made)

theorem Change.mirrors {x y : Host D × List (TicketedJob D)} (hchange : Change x y)
    (hm : Mirrors x.1 x.2 w) : ∃ w', w.Reaches w' ∧ Mirrors y.1 y.2 w' := by
  cases hchange with
  | made h made job => exact hm.ticketFor job
  | submitted => exact hm.submit
  | discarded => exact hm.discard
  | replanned h made n => exact hm.setRunnerCount n
  | shutdown => exact hm.beginShutdown
  | opened h made gate => exact ⟨w, .refl w, hm.openGate gate⟩
  | settled => exact hm.settleWithin _ _
  | aside hside => exact ⟨w, .refl w, hm.of_aside hside⟩

/-- The first runners are numbered from one and have nothing in their hands. -/
theorem first_runners {ends : TicketedJob D → Completion} (hnone : h.runners = []) (n : Nat) :
    ((List.range n).foldl (fun h i => h.addRunner (i + 1)) h).pool = h.pool ∧
      ((List.range n).foldl (fun h i => h.addRunner (i + 1)) h).books = h.books ∧
      ((List.range n).foldl (fun h i => h.addRunner (i + 1)) h).ids = List.range' 1 n ∧
      Hands ends ((List.range n).foldl (fun h i => h.addRunner (i + 1)) h).runners
        (List.replicate n none) := by
  induction n with
  | zero => exact ⟨rfl, rfl, congrArg (List.map _) hnone, hnone ▸ .nil⟩
  | succ n ih =>
    rw [List.range_succ, List.foldl_append, List.foldl_cons, List.foldl_nil]
    generalize (List.range n).foldl _ h = g at ih ⊢
    obtain ⟨hpool, hbooks, hids, hhands⟩ := ih
    have hside := aside_wake { g with runners := g.runners ++ [⟨n + 1, .starting⟩] }
      (.runner (n + 1))
    refine ⟨hside.pool.trans hpool, hside.books.trans hbooks, ?_, ?_⟩
    · have hadded : (g.addRunner (n + 1)).ids = g.ids ++ [n + 1] :=
        (congrArg (List.map _) hside.runners).trans List.map_append
      rw [hadded, hids, List.range'_concat, Nat.one_mul, Nat.add_comm 1 n]
    · have hadded : (g.addRunner (n + 1)).runners = g.runners ++ [⟨n + 1, .starting⟩] :=
        hside.runners
      rw [hadded, List.replicate_succ']
      exact List.rel_append hhands (.cons .starting .nil)

/-- A new host has its first runners, and nothing else. -/
theorem start_ok {registry : Registry D} {config : HostConfig} {observed : Observed}
    (hstart : start registry config observed = .ok h) :
    config.validate = .ok () ∧ ∃ base : Host D, base.runners = [] ∧
      base.pool = Pool.start config.maxRunnerCount config.runnerCount ∧
      base.books = (registry, config.party, 0, []) ∧
      h = (List.range config.runnerCount).foldl (fun h i => h.addRunner (i + 1)) base := by
  unfold start at hstart
  cases hvalid : config.validate with
  | error e =>
    rw [hvalid] at hstart
    cases hstart
  | ok u =>
    rw [hvalid] at hstart
    exact ⟨rfl, _, rfl, rfl, rfl, (Except.ok.inj hstart).symm⟩

/-- A new host is a new workshop. -/
theorem mirrors_start {registry : Registry D} {config : HostConfig} {observed : Observed}
    (hstart : start registry config observed = .ok h) :
    ∃ w, Workshop.start registry config = .ok w ∧ Mirrors h [] w := by
  obtain ⟨hvalid, base, hnone, hbase, hempty, rfl⟩ := start_ok hstart
  unfold Workshop.start Crew.start
  rw [hvalid]
  refine ⟨_, rfl, ?_⟩
  obtain ⟨hpool, hbooks, hids, hhands⟩ := first_runners hnone config.runnerCount
  rw [hbase] at hpool
  refine ⟨⟨⟨?_, ?_⟩, hpool.symm, hempty.symm.trans hbooks.symm, rfl, rfl⟩, hhands⟩
  · rw [hids]
    exact List.nodup_range'
  · intro id hid
    rw [hids, List.mem_range'_1] at hid
    rw [hpool]
    show id ≤ config.runnerCount
    omega

/-- **Whatever happens to a host, the workshop can follow.** -/
theorem Mirrors.changes {made' : List (TicketedJob D)} (hm : Mirrors h made w)
    (hchanges : Relation.ReflTransGen Change (h, made) (h', made')) :
    ∃ w', w.Reaches w' ∧ Mirrors h' made' w' := by
  have hreach : ∀ x, Relation.ReflTransGen Change (h, made) x →
      ∃ w', w.Reaches w' ∧ Mirrors x.1 x.2 w' := by
    intro x hchanges
    induction hchanges with
    | refl => exact ⟨w, .refl w, hm⟩
    | tail _ hchange ih =>
      obtain ⟨w₁, hreach₁, hmirrors₁⟩ := ih
      obtain ⟨w₂, hreach₂, hmirrors₂⟩ := hchange.mirrors hmirrors₁
      exact ⟨w₂, hreach₁.trans hreach₂, hmirrors₂⟩
  exact hreach _ hchanges

/-- **A host at work is a workshop at work.**  Whatever happens to a host, some run of a workshop
that was started with the same registry and configuration ends in the same pool and the same state
of all tickets, with the hands of the host's runners. -/
theorem exists_workshop {registry : Registry D} {config : HostConfig} {observed : Observed}
    {h₀ : Host D} (hstart : start registry config observed = .ok h₀)
    (hchanges : Relation.ReflTransGen Change (h₀, []) (h, made)) :
    ∃ w₀ w moves, Workshop.start registry config = .ok w₀ ∧ w₀.run moves = some w ∧
      Mirrors h made w := by
  obtain ⟨w₀, hworkshop, hmirrors⟩ := mirrors_start hstart
  obtain ⟨w, ⟨moves, hrun⟩, hw⟩ := hmirrors.changes hchanges
  exact ⟨w₀, w, moves, hworkshop, hrun, hw⟩

/-- A command that is received is a job that is made and submitted at once, or changes nothing that
counts. -/
theorem changes_receive (h : Host D) (made : List (TicketedJob D)) (executor : Executor D)
    (services : D) (command : Object) (data : ScopeData) (token : Token) :
    Relation.ReflTransGen Change (h, made)
      ((h.receive executor services command data token).2, made) := by
  have hobserved : ∀ observed,
      Relation.ReflTransGen Change (h, made) ({ h with observed }, made) := by
    intro observed
    have hside : Aside h { h with observed } := ⟨rfl, rfl, rfl⟩
    exact .single (.aside hside made)
  unfold receive
  dsimp only
  split
  · split
    · exact hobserved _
    · have hsubmitted : ∀ observed job, Relation.ReflTransGen Change (h, made)
          (((({ h with observed } : Host D).ticketFor job).2.submit
            (({ h with observed } : Host D).ticketFor job).1).2, made) := by
        intro observed job
        have hmade := (hobserved observed).tail (Change.made _ made job)
        simpa using hmade.tail (Change.submitted _ made [] _)
      split
      all_goals
        rename_i hsubmit
        obtain rfl := congrArg Prod.snd hsubmit
        exact hsubmitted _ _
  · exact hobserved _

/-! ## What is true of workshops is true of hosts -/

theorem Holds.job {ends : TicketedJob D → Completion} {m : Message (TicketedJob D)}
    (hholds : Holds ends phase (some m)) : ∃ j, m = .job j := by
  cases hholds with
  | waiting | granted | endless => exact ⟨_, rfl⟩

/-- Between the moves of a host its runners hold jobs or nothing. -/
theorem Hands.job {ends : TicketedJob D → Completion} {runners : List Runner}
    {hands : List (Option (Message (TicketedJob D)))} {m : Message (TicketedJob D)}
    (hh : Hands ends runners hands) (hmem : some m ∈ hands) : ∃ j, m = .job j := by
  induction hh with
  | nil => cases hmem
  | cons hhand _ ih =>
    rcases List.mem_cons.mp hmem with rfl | hmem
    · exact Holds.job hhand
    · exact ih hmem

theorem Mirrors.countP_held (hm : Mirrors h made w) {p : Message (TicketedJob D) → Bool}
    (hp : ∀ j, p (.job j) = false) : w.crew.held.countP p = 0 := by
  rw [List.countP_eq_zero]
  intro m hmem
  obtain ⟨hand, hhand, rfl⟩ := List.mem_filterMap.mp hmem
  obtain ⟨j, rfl⟩ := Hands.job hm.hands hhand
  rw [hp]
  exact Bool.false_ne_true

/-- A caller of the host is told what a caller of the workshop is told. -/
theorem report_eq (hbooks : w.books = h.books) (hw : w.Kept) (number : Nat) :
    (h.ticket? number).bind (·.report?) = w.answer? number := by
  obtain ⟨-, -, -, htickets⟩ := books_eq hbooks
  rw [Workshop.answer?, ← hw.find?_tickets, htickets, completions, List.find?_map,
    Option.bind_map]
  rfl

section Reachable

variable {registry : Registry D} {config : HostConfig} {observed : Observed} {h₀ : Host D}

/-- The plan of a host is within reach of the orders in its queue. -/
theorem plan_within_reach (hstart : start registry config observed = .ok h₀)
    (hchanges : Relation.ReflTransGen Change (h₀, []) (h, made)) :
    h.pool.plannedCount ≤ h.pool.runnerCount + h.pool.queue.countP (·.isGrow) ∧
      h.pool.runnerCount ≤ h.pool.plannedCount + h.pool.queue.countP (·.isPoison) := by
  obtain ⟨w₀, w, moves, hworkshop, hrun, hmirrors⟩ := exists_workshop hstart hchanges
  obtain ⟨c₀, crewMoves, hcrew, hcrewRun⟩ := Workshop.exists_crew hworkshop hrun
  obtain ⟨hup, hdown, -⟩ := Crew.Covered.of_run hcrew hcrewRun
  have hgrows : w.crew.held.countP (·.isGrow) = 0 := hmirrors.countP_held fun _ => rfl
  have hpoisons : w.crew.held.countP (·.isPoison) = 0 := hmirrors.countP_held fun _ => rfl
  rw [Crew.grows, Crew.outstanding, List.countP_append, hgrows, Nat.zero_add,
    hmirrors.pool] at hup
  rw [Crew.poisons, Crew.outstanding, List.countP_append, hpoisons, Nat.zero_add,
    hmirrors.pool] at hdown
  exact ⟨hup, hdown⟩

end Reachable
end Host
end CommandEngine
