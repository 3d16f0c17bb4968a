import CommandEngine.Host.Shared
import CommandEngine.Proofs.Crew.Convergence
import CommandEngine.Proofs.Host.Simulation
import CommandEngine.Proofs.Workshop.Reports

/-!
# A shared host is a workshop at work

What a host's handles and its calls of `shutdown` do to it, a workshop can do: they begin a
shutdown, and when nothing holds the host any more and no runner is left, the queue goes
(`Workshop.Move.release`).  So a shared host, too, is a workshop at work
(`SharedHost.exists_workshop`).

The queue of the workshop stays where it is when the host's goes, and so a workshop does not mirror
its host any more; it `Outlives` it.  Little can happen then.  In a host whose shutdown is `Over`
there is no runner and all work is refused, so callers make jobs and lose them, and nothing else
changes (`Over.leftover`).

The shared host goes by the number of runners that its pool shows.  That number is the right one,
because the pool's status is up to date and there is a hand for each runner that the pool counts
(`Likeness.runnerCount_eq_zero_iff`).
-/
namespace CommandEngine

namespace Workshop

variable {D : Type} {w w' : Workshop D}

theorem Reaches.kept (hreach : w.Reaches w') (hw : w.Kept) : w'.Kept := by
  obtain ⟨moves, hrun⟩ := hreach
  exact run_keeps Kept.step hrun hw

/-- What is shown of the pool stays up to date. -/
theorem Reaches.upToDate (hreach : w.Reaches w') (hw : w.crew.pool.UpToDate) :
    w'.crew.pool.UpToDate := by
  obtain ⟨moves, hrun⟩ := hreach
  refine foldlM_keeps (P := fun w : Workshop D => w.crew.pool.UpToDate) ?_ hrun hw
  intro w m w' hs hw
  obtain ⟨crewMoves, hcrew⟩ := reaches_crew hs
  exact Crew.upToDate_run hcrew hw

/-- A shutdown that has begun stays. -/
theorem Reaches.shuttingDown (hreach : w.Reaches w') (hshut : w.crew.pool.shuttingDown = true) :
    w'.crew.pool.shuttingDown = true := by
  obtain ⟨moves, hrun⟩ := hreach
  exact run_keeps (P := fun w => w.crew.pool.shuttingDown = true)
    (fun hs => hs.crew.shuttingDown) hrun hshut

/-- Without runners none is started. -/
theorem Reaches.hands_of_nil (hreach : w.Reaches w') (hgone : w.crew.hands = []) :
    w'.crew.hands = [] := by
  obtain ⟨moves, hrun⟩ := hreach
  exact run_keeps (P := fun w => w.crew.hands = []) (fun hs => hs.crew.hands_of_nil) hrun hgone

end Workshop

namespace Host

variable {D : Type} {h h' : Host D} {made made' : List (TicketedJob D)} {w w' : Workshop D}

/-! ## After a shutdown -/

/-- The shutdown is over: it has begun, and no runner is left. -/
structure Over (h : Host D) : Prop where
  shuttingDown : h.pool.shuttingDown = true
  runners : h.runners = []

/-- What can still happen in a host whose shutdown is over. -/
inductive Leftover (h : Host D) :
    List (TicketedJob D) → Host D → List (TicketedJob D) → Prop
  | made (made : List (TicketedJob D)) (job : Job D) :
    Leftover h made (h.ticketFor job).2 (made ++ [(h.ticketFor job).1])
  /-- A job is refused, or its caller drops it. -/
  | lost {h' : Host D} (before after : List (TicketedJob D)) (j : TicketedJob D)
    (hside : Aside (h.lose j.ticket) h') : Leftover h (before ++ j :: after) h' (before ++ after)
  | aside {h' : Host D} (made : List (TicketedJob D)) (hside : Aside h h') :
    Leftover h made h' made

/-- Where no runner is, those that move change nothing that counts. -/
theorem aside_settleWithin (hnone : h.runners = []) (steps left : Nat) :
    Aside h (h.settleWithin steps left) := by
  have hmove : ∀ (g : Host D) (m : Mover), g.runners = [] → Aside g (g.move m) := by
    intro g m hg
    cases m with
    | runner id =>
      have hphase : g.phase? id = none := by rw [phase?, hg]; rfl
      show Aside g (g.moveRunner id)
      rw [moveRunner, hphase]
      exact .refl g
    | watcher number =>
      unfold Host.move
      dsimp only
      split
      · exact .refl g
      · exact ⟨rfl, rfl, rfl⟩
  induction steps generalizing h left with
  | zero => exact .refl h
  | succ steps ih =>
    have hlined : ∀ left, Aside h (h.lineUp.settleWithin steps left) := fun left =>
      (aside_lineUp h).trans (ih ((aside_lineUp h).runners.trans hnone) left)
    unfold Host.settleWithin
    split
    · split
      · exact .refl h
      · exact hlined _
    · exact hlined _
    · rename_i m rest left _
      have hready : Aside h { h with ready := rest } := ⟨rfl, rfl, rfl⟩
      have hmoved : Aside h ({ h with ready := rest }.move m) := hready.trans (hmove _ m hnone)
      exact hmoved.trans (ih (hmoved.runners.trans hnone) left)

/-- A call of `shutdown` finds that the shutdown has begun. -/
theorem aside_beginShutdown (hshut : h.pool.shuttingDown = true) : Aside h h.beginShutdown := by
  have hlogged : Aside h (h.log h.pool.shutdownRecords) := ⟨rfl, rfl, rfl⟩
  unfold beginShutdown
  rw [Pool.beginShutdown_of_shuttingDown hshut]
  exact hlogged.trans (aside_setPool (h.log h.pool.shutdownRecords) h.pool)

theorem shuttingDown_beginShutdown (h : Host D) : h.beginShutdown.pool.shuttingDown = true := by
  have hpool : h.beginShutdown.pool = h.pool.beginShutdown :=
    (aside_setPool (h.log h.pool.shutdownRecords) h.pool.beginShutdown).pool
  rw [hpool]
  cases hshut : h.pool.shuttingDown with
  | true => rw [Pool.beginShutdown_of_shuttingDown hshut, hshut]
  | false => exact (Pool.beginShutdown_of_open hshut).1

/-- **After a shutdown only callers do something**, and only with their own jobs. -/
theorem Over.leftover (ho : Over h) (hchange : Change (h, made) (h', made')) :
    Leftover h made h' made' := by
  cases hchange with
  | made _ _ job => exact .made _ job
  | submitted _ before after j =>
    refine .lost before after j ?_
    unfold Host.submit
    cases hsubmit : h.pool.submit j with
    | ok pool => exact nomatch ho.shuttingDown.symm.trans (Pool.submit_ok hsubmit).1
    | error e => exact ⟨rfl, rfl, rfl⟩
  | discarded _ before after j => exact .lost before after j (.refl _)
  | replanned _ _ n =>
    refine .aside _ ?_
    unfold Host.setRunnerCount
    dsimp only
    split
    · rename_i pool hset
      exact nomatch ho.shuttingDown.symm.trans (Pool.setRunnerCount_ok hset).1
    · exact ⟨rfl, rfl, rfl⟩
  | shutdown => exact .aside _ (aside_beginShutdown ho.shuttingDown)
  | opened _ _ gate =>
    refine .aside _ ?_
    unfold Host.openGate
    dsimp only
    split
    · exact ⟨rfl, rfl, rfl⟩
    · rename_i id rest _
      have hphase : (h.setGate { h.gate gate with waiters := rest }).phase? id = none := by
        rw [phase?]
        show (h.runners.find? _).map _ = none
        rw [ho.runners]
        rfl
      rw [hphase]
      exact ⟨rfl, rfl, rfl⟩
  | settled => exact .aside _ (aside_settleWithin ho.runners _ _)
  | aside hside => exact .aside _ hside

/-! ## A workshop that outlives its host -/

/-- The queue of the host is gone, and the workshop knows it. -/
structure Outlives (h : Host D) (made : List (TicketedJob D)) (w : Workshop D) : Prop
    extends Over h where
  pool : h.pool = { w.crew.pool with queue := [] }
  books : w.books = h.books
  made : w.made = made
  released : w.released = true

theorem Outlives.of_aside (ho : Outlives h made w) (hside : Aside h h') : Outlives h' made w :=
  ⟨⟨hside.pool ▸ ho.shuttingDown, hside.runners.trans ho.runners⟩, hside.pool.trans ho.pool,
    ho.books.trans hside.books.symm, ho.made, ho.released⟩

theorem Outlives.change (ho : Outlives h made w) (hchange : Change (h, made) (h', made')) :
    ∃ w', w.Reaches w' ∧ Outlives h' made' w' := by
  cases ho.toOver.leftover hchange with
  | made _ job =>
    obtain ⟨hbooks, hmade⟩ := books_make ho.books ho.made job
    exact ⟨w.make job, .of_step (m := .make job) rfl,
      ⟨⟨ho.shuttingDown, ho.runners⟩, ho.pool, hbooks, hmade, ho.released⟩⟩
  | lost before after j hside =>
    have hlost : Outlives (h.lose j.ticket) (before ++ after) { w with
        made := before ++ after
        discarded := w.discarded ++ [j]
        tickets := Workshop.write j.ticket .lost w.tickets } :=
      ⟨⟨ho.shuttingDown, ho.runners⟩, ho.pool, books_complete ho.books j.ticket .lost, rfl,
        ho.released⟩
    exact ⟨_, reaches_discarded ho.made, hlost.of_aside hside⟩
  | aside _ hside => exact ⟨w, .refl w, ho.of_aside hside⟩

/-- The workshop that goes with a host, before and after the queue goes. -/
inductive Likeness (h : Host D) (made : List (TicketedJob D)) (w : Workshop D) : Prop
  | mirrors (hm : Mirrors h made w)
  | outlives (ho : Outlives h made w)

namespace Likeness

theorem of_aside (hl : Likeness h made w) (hside : Aside h h') : Likeness h' made w := by
  cases hl with
  | mirrors hm => exact .mirrors (hm.of_aside hside)
  | outlives ho => exact .outlives (ho.of_aside hside)

theorem change (hl : Likeness h made w) (hchange : Change (h, made) (h', made')) :
    ∃ w', w.Reaches w' ∧ Likeness h' made' w' := by
  cases hl with
  | mirrors hm =>
    obtain ⟨w', hreach, hm'⟩ := hchange.mirrors hm
    exact ⟨w', hreach, .mirrors hm'⟩
  | outlives ho =>
    obtain ⟨w', hreach, ho'⟩ := ho.change hchange
    exact ⟨w', hreach, .outlives ho'⟩

theorem books (hl : Likeness h made w) : w.books = h.books := by
  cases hl with
  | mirrors hm => exact hm.books
  | outlives ho => exact ho.books

/-- But for the queue the pools are the same. -/
theorem pool (hl : Likeness h made w) :
    h.pool.status = w.crew.pool.status ∧ h.pool.shuttingDown = w.crew.pool.shuttingDown := by
  cases hl with
  | mirrors hm => exact ⟨congrArg _ hm.pool.symm, congrArg _ hm.pool.symm⟩
  | outlives ho => rw [ho.pool]; exact ⟨rfl, rfl⟩

/-- There is a hand for each runner. -/
theorem runners_eq_nil_iff (hl : Likeness h made w) (hw : w.Kept) :
    h.runners = [] ↔ w.crew.hands = [] := by
  cases hl with
  | mirrors hm =>
    constructor
    · intro hnone
      exact List.forall₂_nil_left_iff.mp (hnone ▸ hm.hands)
    · intro hgone
      exact List.forall₂_nil_right_iff.mp (hgone ▸ hm.hands)
  | outlives ho => exact iff_of_true ho.runners (hw.gone ho.released).2

/-- The number of runners that a host shows is the right one. -/
theorem runnerCount_eq_zero_iff (hl : Likeness h made w) (hw : w.Kept)
    (hup : w.crew.pool.UpToDate) : h.pool.status.runnerCount = 0 ↔ h.runners = [] := by
  rw [hl.runners_eq_nil_iff hw, hl.pool.1, hup.status_eq]
  show w.crew.pool.runnerCount = 0 ↔ _
  rw [← hw.accounted.hands_length]
  exact List.length_eq_zero_iff

/-- **The queue that goes with the last runner goes as a workshop's does.** -/
theorem dropQueue (hl : Likeness h made w) (hw : w.Kept) (hshut : h.pool.shuttingDown = true)
    (hnone : h.runners = []) : ∃ w', w.Reaches w' ∧ Outlives h.dropQueue made w' := by
  have hgone := (hl.runners_eq_nil_iff hw).mp hnone
  obtain ⟨written, hwritten⟩ := lose_keeps (h.pool.queuedJobs.map (·.ticket))
    { h with pool := { h.pool with queue := [] } }
  rw [← dropQueue_eq] at hwritten
  cases hl with
  | mirrors hm =>
    have hstep : w.step .release = some { w with
        tickets := Workshop.writeLost h.pool.queuedJobs w.tickets, released := true } := by
      simp [Workshop.step, hm.pool, hshut, hgone, hm.unreleased]
    obtain ⟨hregistry, hparty, hissued, htickets⟩ := books_eq hm.books
    have hlost := completions_dropQueue h
    rw [← htickets] at hlost
    refine ⟨_, .of_step hstep, ⟨?_, ?_⟩, ?_, ?_, hm.made, rfl⟩
    · rw [hwritten]
      exact hshut
    · rw [hwritten]
      exact hnone
    · rw [hwritten, hm.pool]
    · have hnumbers : (Workshop.writeLost h.pool.queuedJobs w.tickets).map Prod.fst =
          w.tickets.map Prod.fst := Workshop.map_fst_writeLost h.pool.queuedJobs
      have hlength := congrArg List.length hnumbers
      rw [List.length_map, List.length_map] at hlength
      simp only [Workshop.books, Host.books, hlost, hlength]
      rw [hwritten, hregistry, hparty, hissued]
  | outlives ho =>
    -- there was nothing left in the queue
    have hqueue : h.pool.queue = [] := by rw [ho.pool]
    have hsame : h.dropQueue = { h with pool := { h.pool with queue := [] } } := by
      unfold Host.dropQueue
      rw [hqueue]
      rfl
    refine ⟨w, .refl w, ho.of_aside ?_⟩
    rw [hsame]
    exact ⟨by rw [ho.pool], rfl, rfl⟩

end Likeness
end Host

namespace SharedHost

variable {D : Type} {s s' : SharedHost D} {made made' : List (TicketedJob D)} {w w' : Workshop D}

/-! ## What handles and calls of `shutdown` do -/

/-- The workshop that goes with a shared host. -/
structure Attended (s : SharedHost D) (made : List (TicketedJob D)) (w : Workshop D) : Prop where
  kept : w.Kept
  upToDate : w.crew.pool.UpToDate
  likeness : Host.Likeness s.host made w
  /-- A call of `shutdown` has begun the shutdown. -/
  begun : 0 < s.stopping + s.stopped → w.crew.pool.shuttingDown = true
  /-- It does not end before the last runner has. -/
  ended : 0 < s.stopped → w.crew.hands = []

/-- The workshop that goes with a shared host, and what is true when nothing holds the host. -/
structure Tended (s : SharedHost D) (made : List (TicketedJob D)) (w : Workshop D) : Prop
    extends Attended s made w where
  closing : s.isReleased = true → w.crew.pool.shuttingDown = true
  gone : s.isReleased = true → s.host.runners = [] → Host.Outlives s.host made w

/-- What calls of `shutdown` began and ended stays so. -/
theorem Attended.later (ha : Attended s made w) (hreach : w.Reaches w')
    (hlike : Host.Likeness s'.host made' w')
    (hbegun : s'.stopping + s'.stopped ≤ s.stopping + s.stopped)
    (hended : s'.stopped ≤ s.stopped) : Attended s' made' w' :=
  ⟨hreach.kept ha.kept, hreach.upToDate ha.upToDate, hlike,
    fun hsome => hreach.shuttingDown (ha.begun (Nat.lt_of_lt_of_le hsome hbegun)),
    fun hsome => hreach.hands_of_nil (ha.ended (Nat.lt_of_lt_of_le hsome hended))⟩

/-- When nothing holds the host its shutdown begins, and when it has no runner its queue goes. -/
theorem Attended.release (ha : Attended s made w) :
    ∃ w', w.Reaches w' ∧ Tended s.release made w' := by
  unfold SharedHost.release
  split
  · rename_i hreleased
    obtain ⟨w₁, hreach₁, hlike⟩ := ha.likeness.change (.shutdown s.host made)
    have hkept := hreach₁.kept ha.kept
    have hup := hreach₁.upToDate ha.upToDate
    have hshut : s.host.beginShutdown.pool.shuttingDown = true :=
      Host.shuttingDown_beginShutdown s.host
    have hcount := hlike.runnerCount_eq_zero_iff hkept hup
    dsimp only
    split
    · rename_i hshown
      obtain ⟨w₂, hreach₂, ho⟩ := hlike.dropQueue hkept hshut (hcount.mp hshown)
      exact ⟨w₂, hreach₁.trans hreach₂,
        ha.later (hreach₁.trans hreach₂) (.outlives ho) (Nat.le_refl _) (Nat.le_refl _),
        fun _ => hreach₂.shuttingDown (hlike.pool.2 ▸ hshut), fun _ _ => ho⟩
    · rename_i hshown
      exact ⟨w₁, hreach₁, ha.later hreach₁ hlike (Nat.le_refl _) (Nat.le_refl _),
        fun _ => hlike.pool.2 ▸ hshut, fun _ hnone => absurd (hcount.mpr hnone) hshown⟩
  · rename_i hheld
    exact ⟨w, .refl w, ha, fun hreleased => absurd hreleased hheld,
      fun hreleased => absurd hreleased hheld⟩

/-- The calls of `shutdown` end when the host has no runner. -/
theorem Attended.endStopping (ha : Attended s made w)
    (hclosing : s.isReleased = true → w.crew.pool.shuttingDown = true) :
    ∃ w', w.Reaches w' ∧ Tended s.endStopping made w' := by
  unfold SharedHost.endStopping
  have hcount := ha.likeness.runnerCount_eq_zero_iff ha.kept ha.upToDate
  split
  · rename_i hshown
    refine Attended.release ⟨ha.kept, ha.upToDate, ha.likeness.of_aside ⟨rfl, rfl, rfl⟩, ?_,
      fun _ => (ha.likeness.runners_eq_nil_iff ha.kept).mp (hcount.mp hshown)⟩
    intro hsome
    exact ha.begun (by simpa [Nat.add_comm] using hsome)
  · rename_i hshown
    exact ⟨w, .refl w, ha, hclosing, fun _ hnone => absurd (hcount.mpr hnone) hshown⟩

/-! ## The main results -/

/-- What can happen to a shared host and to the jobs that callers have.  Runners move in `settle`
only, so nothing else makes the last of them exit. -/
inductive Change :
    SharedHost D × List (TicketedJob D) → SharedHost D × List (TicketedJob D) → Prop
  | changed (s : SharedHost D) {host : Host D} {made made' : List (TicketedJob D)}
    (hchange : Host.Change (s.host, made) (host, made'))
    (hstays : host.runners = [] → s.host.runners = []) :
    Change (s, made) ({ s with host }, made')
  | cloned (s : SharedHost D) (made : List (TicketedJob D)) : Change (s, made) (s.clone.2, made)
  | dropped (s : SharedHost D) (made : List (TicketedJob D)) (i : Nat) :
    Change (s, made) ((s.dropHandle i).2, made)
  | shutdown (s : SharedHost D) (made : List (TicketedJob D)) :
    Change (s, made) (s.shutdown.2, made)
  | settled (s : SharedHost D) (made : List (TicketedJob D)) : Change (s, made) (s.settle, made)
  | closed (s : SharedHost D) (made : List (TicketedJob D)) : Change (s, made) (s.close, made)

/-- **Whatever happens to a shared host, the workshop can follow.** -/
theorem Change.tended {x y : SharedHost D × List (TicketedJob D)} (hchange : Change x y)
    (ht : Tended x.1 x.2 w) : ∃ w', w.Reaches w' ∧ Tended y.1 y.2 w' := by
  cases hchange with
  | changed s hchange hstays =>
    -- if the queue is gone it stays so
    by_cases hover : s.isReleased = true ∧ s.host.runners = []
    · obtain ⟨w', hreach, ho⟩ := (ht.gone hover.1 hover.2).change hchange
      exact ⟨w', hreach, ht.later hreach (.outlives ho) (Nat.le_refl _) (Nat.le_refl _),
        fun hreleased => hreach.shuttingDown (ht.closing hreleased), fun _ _ => ho⟩
    · obtain ⟨w', hreach, hlike⟩ := ht.likeness.change hchange
      exact ⟨w', hreach, ht.later hreach hlike (Nat.le_refl _) (Nat.le_refl _),
        fun hreleased => hreach.shuttingDown (ht.closing hreleased),
        fun hreleased hnone => absurd ⟨hreleased, hstays hnone⟩ hover⟩
  | cloned s made =>
    have hheld : s.clone.2.isReleased ≠ true := by simp [isReleased, clone]
    exact ⟨w, .refl w, ht.later (.refl w) ht.likeness (Nat.le_refl _) (Nat.le_refl _),
      fun hreleased => absurd hreleased hheld, fun hreleased => absurd hreleased hheld⟩
  | dropped s made i =>
    unfold dropHandle
    split
    · exact Attended.release
        (ht.later (.refl w) ht.likeness (Nat.le_refl _) (Nat.le_refl _))
    · exact ⟨w, .refl w, ht⟩
  | shutdown s made =>
    obtain ⟨w₁, hreach₁, hlike⟩ := ht.likeness.change (.shutdown s.host made)
    have hshut : w₁.crew.pool.shuttingDown = true :=
      hlike.pool.2 ▸ Host.shuttingDown_beginShutdown s.host
    have hbegun : Attended { s with
        host := s.host.beginShutdown.wake (.watcher s.stopping)
        stopping := s.stopping + 1 } made w₁ :=
      ⟨hreach₁.kept ht.kept, hreach₁.upToDate ht.upToDate,
        hlike.of_aside (Host.aside_wake _ _), fun _ => hshut,
        fun hsome => hreach₁.hands_of_nil (ht.ended hsome)⟩
    obtain ⟨w₂, hreach₂, ht₂⟩ := hbegun.endStopping fun _ => hshut
    exact ⟨w₂, hreach₁.trans hreach₂, ht₂⟩
  | settled s made =>
    obtain ⟨w₁, hreach₁, hlike⟩ := ht.likeness.change (.settled s.host made)
    have hsettled : Attended { s with host := s.host.settle } made w₁ :=
      ht.later hreach₁ hlike (Nat.le_refl _) (Nat.le_refl _)
    obtain ⟨w₂, hreach₂, ht₂⟩ := hsettled.endStopping fun hreleased =>
      hreach₁.shuttingDown (ht.closing hreleased)
    exact ⟨w₂, hreach₁.trans hreach₂, ht₂⟩
  | closed s made =>
    exact Attended.release (ht.later (.refl w) ht.likeness
      (Nat.add_le_add_right (Nat.zero_le _) _) (Nat.le_refl _))

section Reachable

variable {registry : Registry D} {config : HostConfig} {observed : Observed} {h₀ : Host D}

/-- **A shared host at work is a workshop at work.**  Whatever happens to a host and to its handles,
some run of a workshop that was started with the same registry and configuration goes with it. -/
theorem exists_workshop (hstart : Host.start registry config observed = .ok h₀)
    (hchanges : Relation.ReflTransGen Change (ofHost h₀, []) (s, made)) :
    ∃ w₀ w moves, Workshop.start registry config = .ok w₀ ∧ w₀.run moves = some w ∧
      Tended s made w := by
  obtain ⟨w₀, hworkshop, hmirrors⟩ := Host.mirrors_start hstart
  have hfirst : Tended (ofHost h₀) [] w₀ := by
    obtain ⟨crew, hcrew, rfl⟩ := Workshop.start_ok hworkshop
    obtain ⟨-, rfl⟩ := Crew.start_ok hcrew
    have hheld : (ofHost h₀).isReleased ≠ true := Bool.false_ne_true
    exact ⟨⟨.of_start hworkshop, Pool.upToDate_start _ _, .mirrors hmirrors,
      fun hsome => absurd hsome (Nat.lt_irrefl 0), fun hsome => absurd hsome (Nat.lt_irrefl 0)⟩,
      fun hreleased => absurd hreleased hheld, fun hreleased => absurd hreleased hheld⟩
  have hreach : ∀ x, Relation.ReflTransGen Change (ofHost h₀, []) x →
      ∃ w, w₀.Reaches w ∧ Tended x.1 x.2 w := by
    intro x hchanges
    induction hchanges with
    | refl => exact ⟨w₀, .refl w₀, hfirst⟩
    | tail _ hchange ih =>
      obtain ⟨w₁, hreach₁, ht₁⟩ := ih
      obtain ⟨w₂, hreach₂, ht₂⟩ := hchange.tended ht₁
      exact ⟨w₂, hreach₁.trans hreach₂, ht₂⟩
  obtain ⟨w, ⟨moves, hrun⟩, ht⟩ := hreach _ hchanges
  exact ⟨w₀, w, moves, hworkshop, hrun, ht⟩

/-- **Who lets go of a host closes it, and who waits for its end sees it.**  A host that nothing
holds any more shuts down, and so does one whose `shutdown` was called; and when a call of it has
ended, no runner is left. -/
theorem shutdown_over (hstart : Host.start registry config observed = .ok h₀)
    (hchanges : Relation.ReflTransGen Change (ofHost h₀, []) (s, made)) :
    (s.isReleased = true ∨ 0 < s.stopping + s.stopped → s.host.pool.shuttingDown = true) ∧
      (0 < s.stopped → s.host.Over) := by
  obtain ⟨w₀, w, moves, -, -, ht⟩ := exists_workshop hstart hchanges
  rw [ht.likeness.pool.2]
  refine ⟨?_, fun hsome => ⟨?_, ?_⟩⟩
  · rintro (hreleased | hsome)
    · exact ht.closing hreleased
    · exact ht.begun hsome
  · rw [ht.likeness.pool.2]
    exact ht.begun (Nat.add_pos_right _ hsome)
  · exact (ht.likeness.runners_eq_nil_iff ht.kept).mpr (ht.ended hsome)

/-- **Nobody waits for a job of a host that is gone.**  When nothing holds the host and no runner is
left, a caller with a ticket has an answer, unless the job was never submitted. -/
theorem answered_of_released (hstart : Host.start registry config observed = .ok h₀)
    (hchanges : Relation.ReflTransGen Change (ofHost h₀, []) (s, made))
    (hreleased : s.isReleased = true) (hnone : s.host.runners = []) {number : Nat}
    (hnumber : number < s.host.issued) :
    (s.host.ticket? number).bind (·.report?) = none ↔ ∃ j ∈ made, j.ticket = number := by
  obtain ⟨w₀, w, moves, -, -, ht⟩ := exists_workshop hstart hchanges
  have ho := ht.gone hreleased hnone
  have hhands := (ht.kept.gone ho.released).2
  obtain ⟨-, -, hissued, -⟩ := Host.books_eq ho.books
  rw [Host.report_eq ho.books ht.kept, ht.kept.answer_eq_none_iff (hissued.symm ▸ hnumber),
    Workshop.pendingJobs_of_gone ho.released hhands, ho.made]

/-- The only handle of a new host is dropped, and its runner exits. -/
example : (Host.start Workshop.Small.registry Workshop.Small.config .empty).map (fun h =>
    let s := ((ofHost h).dropHandle 0).2.settle
    (s.isReleased, s.host.runners.length)) = .ok (true, 0) := by rfl

end Reachable
end SharedHost
end CommandEngine
