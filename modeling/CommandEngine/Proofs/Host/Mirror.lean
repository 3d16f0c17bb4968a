import CommandEngine.Proofs.Host.Tickets
import CommandEngine.Proofs.Workshop.Basic
import Mathlib.Data.List.Forall2

/-!
# The workshop of a host

A host has more in it than its pool and its jobs: gates, events to be received, the line of those
that can move.  What its queue and its tickets see is a workshop.  The workshop `Mirrors` the host:
the pools are the same, the tickets stand as the host's do, and each runner has the hand that its
phase tells of.  A runner that waits for a permit, or was given one, is in the middle of a job and
has it in its hand; so has one whose job never ends; all others have nothing.  While a runner moves
its phase lags behind, so during a move its hand is stated by itself (`Moving`).

A host knows of a job only once it is submitted.  The jobs that callers have in hand are therefore
stated beside the host (`made`).
-/
namespace CommandEngine

/-- What a workshop shares with its host besides the pool and the hands. -/
def Workshop.books {D : Type} (w : Workshop D) :
    Registry D × String × Nat × List (Nat × Completion) :=
  (w.registry, w.party, w.tickets.length, w.tickets)

namespace Host

variable {D : Type} {h h' h₁ h₂ : Host D} {id : Nat}

/-- What a host shares with its workshop besides the pool and the hands. -/
def books (h : Host D) : Registry D × String × Nat × List (Nat × Completion) :=
  (h.registry, h.party, h.issued, h.completions)

/-! ## Changes that concern neither the pool nor the runners nor the reports -/

/-- The pool, the runners and the books are as they were. -/
structure Aside (h h' : Host D) : Prop where
  pool : h'.pool = h.pool
  runners : h'.runners = h.runners
  books : h'.books = h.books

theorem Aside.refl (h : Host D) : Aside h h := ⟨rfl, rfl, rfl⟩

theorem Aside.trans (h₁₂ : Aside h h₁) (h₂₃ : Aside h₁ h₂) : Aside h h₂ :=
  ⟨h₂₃.pool.trans h₁₂.pool, h₂₃.runners.trans h₁₂.runners, h₂₃.books.trans h₁₂.books⟩

theorem aside_wake (h : Host D) (m : Mover) : Aside h (h.wake m) := by
  unfold wake
  split
  · exact .refl h
  · exact ⟨rfl, rfl, rfl⟩

theorem aside_wakeAll (ms : List Mover) (h : Host D) : Aside h (ms.foldl wake h) := by
  induction ms generalizing h with
  | nil => exact .refl h
  | cons m ms ih => exact (aside_wake h m).trans (ih _)

theorem aside_lineUp (h : Host D) : Aside h h.lineUp := by
  have hwake := aside_wakeAll (h.resting.map Mover.runner) { h with resting := [] }
  exact ⟨hwake.pool, hwake.runners, hwake.books⟩

theorem aside_notify (h : Host D) : Aside h h.notify := by
  have hwake := aside_wakeAll (h.watchers.map Mover.watcher) { h with watchers := [] }
  exact ⟨hwake.pool, hwake.runners, hwake.books⟩

theorem aside_passTurn (h : Host D) : Aside h h.passTurn := by
  unfold passTurn
  split
  · exact ⟨rfl, rfl, rfl⟩
  · rename_i id rest _
    have hwake := aside_wake { h with turn := some id, askers := rest } (.runner id)
    exact ⟨hwake.pool, hwake.runners, hwake.books⟩

/-- The runner that waits for a message is woken by a new pool. -/
theorem aside_setPool (h : Host D) (pool : Pool (TicketedJob D)) :
    Aside { h with pool } (h.setPool pool) := by
  unfold setPool
  dsimp only
  split
  · exact .refl _
  · split
    · split
      · exact .refl _
      · exact aside_wake _ _
    · exact .refl _

theorem Aside.setPhase (hside : Aside h h') (id : Nat) (phase : Phase) :
    Aside (h.setPhase id phase) (h'.setPhase id phase) := by
  refine ⟨hside.pool, ?_, hside.books⟩
  show h'.runners.map _ = h.runners.map _
  rw [hside.runners]

theorem dropQueue_eq (h : Host D) : h.dropQueue = (h.pool.queuedJobs.map (·.ticket)).foldl lose
    { h with pool := { h.pool with queue := [] } } := by
  unfold dropQueue
  rw [Pool.queuedJobs, List.map_filterMap]
  refine congrArg (List.foldl lose { h with pool := { h.pool with queue := [] } }) ?_
  refine List.filterMap_congr fun m _ => ?_
  cases m <;> rfl

/-- Losing jobs only writes tickets. -/
theorem lose_keeps (tickets : List Nat) (h : Host D) :
    ∃ written, tickets.foldl lose h = { h with tickets := written } := by
  induction tickets generalizing h with
  | nil => exact ⟨_, rfl⟩
  | cons ticket tickets ih =>
    obtain ⟨written, hwritten⟩ := ih (h.lose ticket)
    exact ⟨written, hwritten⟩

/-- The jobs of a queue that is dropped are lost. -/
theorem completions_dropQueue (h : Host D) :
    h.dropQueue.completions = Workshop.writeLost h.pool.queuedJobs h.completions := by
  have hlose : ∀ (jobs : List (TicketedJob D)) (g : Host D),
      ((jobs.map (·.ticket)).foldl lose g).completions =
        Workshop.writeLost jobs g.completions := by
    intro jobs
    induction jobs with
    | nil => exact fun g => rfl
    | cons j jobs ih =>
      intro g
      rw [List.map_cons, List.foldl_cons, ih, lose, completions_complete]
      rfl
  rw [dropQueue_eq]
  exact hlose _ _

/-! ## The workshop of a host -/

/-- The hand of a runner in a phase; `ends` tells how jobs end. -/
inductive Holds (ends : TicketedJob D → Completion) :
    Phase → Option (Message (TicketedJob D)) → Prop
  | starting : Holds ends .starting none
  | queueing : Holds ends .queueing none
  | receiving : Holds ends .receiving none
  | waiting {gate : String} {work : Work} {j : TicketedJob D} (hticket : j.ticket = work.ticket)
    (hends : ends j = work.completion) : Holds ends (.waiting gate work) (some (.job j))
  | granted {work : Work} {j : TicketedJob D} (hticket : j.ticket = work.ticket)
    (hends : ends j = work.completion) : Holds ends (.granted work) (some (.job j))
  | endless {j : TicketedJob D} (hends : ends j = .pending) :
    Holds ends (.endless j.ticket) (some (.job j))

/-- The hands of runners, one by one. -/
abbrev Hands (ends : TicketedJob D → Completion) (runners : List Runner)
    (hands : List (Option (Message (TicketedJob D)))) : Prop :=
  List.Forall₂ (fun runner hand => Holds ends runner.phase hand) runners hands

/-- The numbers of the live runners. -/
def ids (h : Host D) : List Nat := h.runners.map (·.id)

/-- No two runners have one number, and the numbers are those of runners that were started. -/
structure Numbered (h : Host D) : Prop where
  nodup : h.ids.Nodup
  started : ∀ id ∈ h.ids, id ≤ h.pool.started

/-- What the workshop and the host have in common but for the hands; `made` are the jobs that
callers have. -/
structure Shares (h : Host D) (made : List (TicketedJob D)) (w : Workshop D) : Prop where
  numbered : Numbered h
  pool : w.crew.pool = h.pool
  books : w.books = h.books
  made : w.made = made
  unreleased : w.released = false

/-- The workshop is what the host looks like to its queue and to its callers. -/
structure Mirrors (h : Host D) (made : List (TicketedJob D)) (w : Workshop D) : Prop
    extends Shares h made w where
  hands : Hands w.ending h.runners w.crew.hands

/-- The workshop of a host one of whose runners moves.  What that runner holds is stated beside its
phase; `l` and `r` are the hands of the others. -/
structure Moving (h : Host D) (id : Nat) (l r : List (Option (Message (TicketedJob D))))
    (hand : Option (Message (TicketedJob D))) (made : List (TicketedJob D))
    (w : Workshop D) : Prop extends Shares h made w where
  hands : w.crew.hands = l ++ hand :: r
  runners : ∃ front runner back, h.runners = front ++ runner :: back ∧ runner.id = id ∧
    Hands w.ending front l ∧ Hands w.ending back r

variable {w : Workshop D} {l r : List (Option (Message (TicketedJob D)))}
  {hand : Option (Message (TicketedJob D))} {phase : Phase} {made : List (TicketedJob D)}
  {ends : TicketedJob D → Completion}

theorem Numbered.of_ids (hn : Numbered h) (hids : h'.ids = h.ids)
    (hstarted : h'.pool.started = h.pool.started) : Numbered h' :=
  ⟨hids ▸ hn.nodup, by rw [hids, hstarted]; exact hn.started⟩

theorem Numbered.of_aside (hn : Numbered h) (hside : Aside h h') : Numbered h' :=
  hn.of_ids (congrArg (List.map _) hside.runners) (congrArg _ hside.pool)

theorem Shares.of_aside (hs : Shares h made w) (hside : Aside h h') : Shares h' made w :=
  ⟨hs.numbered.of_aside hside, hs.pool.trans hside.pool.symm, hs.books.trans hside.books.symm,
    hs.made, hs.unreleased⟩

theorem Mirrors.of_aside (hm : Mirrors h made w) (hside : Aside h h') : Mirrors h' made w :=
  ⟨hm.toShares.of_aside hside, hside.runners ▸ hm.hands⟩

theorem Moving.of_aside (hm : Moving h id l r hand made w) (hside : Aside h h') :
    Moving h' id l r hand made w :=
  ⟨hm.toShares.of_aside hside, hm.hands, hside.runners ▸ hm.runners⟩

/-- The books, one by one. -/
theorem books_eq (hbooks : w.books = h.books) : w.registry = h.registry ∧ w.party = h.party ∧
    w.tickets.length = h.issued ∧ w.tickets = h.completions := by
  simp only [Workshop.books, Host.books, Prod.mk.injEq] at hbooks
  exact hbooks

/-- A job ends in the workshop as it does in the host. -/
theorem Shares.ending_eq (hs : Shares h made w) (j : TicketedJob D) :
    w.ending j = .ofRun (j.job.process h.registry h.party).run.value := by
  obtain ⟨hregistry, hparty, -, -⟩ := books_eq hs.books
  rw [Workshop.ending, Workshop.processed, hregistry, hparty]

theorem Hands.split {front back : List Runner} {runner : Runner}
    {hands : List (Option (Message (TicketedJob D)))}
    (hh : Hands ends (front ++ runner :: back) hands) :
    ∃ l hand r, hands = l ++ hand :: r ∧ Hands ends front l ∧ Holds ends runner.phase hand ∧
      Hands ends back r := by
  induction front generalizing hands with
  | nil =>
    cases hh with
    | cons hhand hback => exact ⟨[], _, _, rfl, .nil, hhand, hback⟩
  | cons first front ih =>
    cases hh with
    | cons hfirst hrest =>
      obtain ⟨l, hand, r, rfl, hfront, hhand, hback⟩ := ih hrest
      exact ⟨_ :: l, hand, r, rfl, .cons hfirst hfront, hhand, hback⟩

theorem Hands.join {front back : List Runner} {hand : Option (Message (TicketedJob D))}
    {runner : Runner} (hfront : Hands ends front l) (hhand : Holds ends runner.phase hand)
    (hback : Hands ends back r) : Hands ends (front ++ runner :: back) (l ++ hand :: r) :=
  List.rel_append hfront (.cons hhand hback)

/-- A runner that is found is one that can move. -/
theorem Mirrors.moving (hm : Mirrors h made w) (hphase : h.phase? id = some phase) :
    ∃ l r hand, Holds w.ending phase hand ∧ Moving h id l r hand made w := by
  obtain ⟨runner, hfind, rfl⟩ := Option.map_eq_some_iff.mp hphase
  obtain ⟨hid, front, back, hsplit, -⟩ := List.find?_eq_some_iff_append.mp hfind
  obtain ⟨l, hand, r, hhands, hfront, hhand, hback⟩ := Hands.split (hsplit ▸ hm.hands)
  exact ⟨l, r, hand, hhand, hm.toShares, hhands, front, runner, back, hsplit,
    by simpa using hid, hfront, hback⟩

/-- The other runners have other numbers. -/
theorem Numbered.others (hn : Numbered h) {front back : List Runner} {runner : Runner}
    (hsplit : h.runners = front ++ runner :: back) :
    (∀ other ∈ front, other.id ≠ runner.id) ∧ ∀ other ∈ back, other.id ≠ runner.id := by
  have hnodup := hn.nodup
  rw [ids, hsplit, List.map_append, List.map_cons, List.nodup_append, List.nodup_cons] at hnodup
  obtain ⟨-, ⟨hback, -⟩, hfront⟩ := hnodup
  constructor
  · intro other hother
    exact hfront _ (List.mem_map_of_mem hother) _ (List.mem_cons_self ..)
  · intro other hother heq
    exact hback (heq ▸ List.mem_map_of_mem hother)

/-- Writing the phase of a runner touches no other: numbers are not shared, so what is written to a
number is written in one place. -/
theorem Numbered.runners_setPhase (hn : Numbered h) {front back : List Runner} {runner : Runner}
    (hsplit : h.runners = front ++ runner :: back) (phase : Phase) :
    (h.setPhase runner.id phase).runners = front ++ { runner with phase } :: back := by
  obtain ⟨hfront, hback⟩ := hn.others hsplit
  have hkeep : ∀ rs : List Runner, (∀ other ∈ rs, other.id ≠ runner.id) →
      rs.map (fun other => if other.id = runner.id then { other with phase } else other) = rs := by
    intro rs hrs
    rw [List.map_congr_left fun other hother => if_neg (hrs other hother), List.map_id']
  show h.runners.map _ = _
  rw [hsplit, List.map_append, List.map_cons, hkeep front hfront, hkeep back hback, if_pos rfl]

theorem Numbered.setPhase (hn : Numbered h) (id : Nat) (phase : Phase) :
    Numbered (h.setPhase id phase) := by
  refine hn.of_ids ?_ rfl
  show (h.runners.map _).map _ = h.runners.map _
  rw [List.map_map]
  refine List.map_congr_left fun runner _ => ?_
  dsimp only [Function.comp]
  split <;> rfl

theorem Moving.setPhase (hm : Moving h id l r hand made w) (hphase : Holds w.ending phase hand) :
    Mirrors (h.setPhase id phase) made w := by
  obtain ⟨front, runner, back, hsplit, rfl, hfront, hback⟩ := hm.runners
  refine ⟨⟨hm.numbered.setPhase _ _, hm.pool, hm.books, hm.made, hm.unreleased⟩, ?_⟩
  rw [hm.numbered.runners_setPhase hsplit, hm.hands]
  exact hfront.join hphase hback

/-- A runner that exits leaves the others as they are. -/
theorem Numbered.runners_removeRunner (hn : Numbered h) {front back : List Runner}
    {runner : Runner} (hsplit : h.runners = front ++ runner :: back) :
    (h.removeRunner runner.id).runners = front ++ back := by
  obtain ⟨hfront, hback⟩ := hn.others hsplit
  have hkeep : ∀ rs : List Runner, (∀ other ∈ rs, other.id ≠ runner.id) →
      rs.filter (·.id != runner.id) = rs := by
    intro rs hrs
    refine List.filter_eq_self.mpr fun other hother => ?_
    exact bne_iff_ne.mpr (hrs other hother)
  show h.runners.filter _ = _
  rw [hsplit, List.filter_append, List.filter_cons_of_neg (by simp), hkeep front hfront,
    hkeep back hback]

theorem Numbered.removeRunner (hn : Numbered h) (id : Nat) : Numbered (h.removeRunner id) := by
  have hsub : (h.removeRunner id).ids.Sublist h.ids := List.filter_sublist.map _
  exact ⟨hn.nodup.sublist hsub, fun id hid => hn.started id (hsub.subset hid)⟩

end Host
end CommandEngine
