import CommandEngine.Proofs.Workshop.Basic
import Mathlib.Data.List.Nodup

/-!
# The tickets of a workshop

Every job that was ever made is in one place: with its caller, in the queue, in a hand, finished, or
lost, because it was refused or dropped or went with the queue.  The tickets say no more and no
less than that (`Workshop.Kept`): together they are one entry for each job, *pending* for those that
may still be run, *lost* for those that never will be, and what came of its processing for each one
that is finished.  The numbers of the tickets are those of the places in the list, so no two jobs
share one.
-/
namespace CommandEngine

namespace Crew

variable {J : Type} {c c' : Crew J}

/-- The accepted jobs are finished or open. -/
theorem Accounted.accepted_perm (hc : c.Accounted) :
    c.accepted.Perm (c.finished ++ (c.heldJobs ++ c.pool.queuedJobs)) := by
  rw [hc.accepted_eq, ← List.append_assoc]
  exact hc.dequeued_perm.append_right _

/-- A job that is finished is not open any more, and nothing else becomes of open jobs. -/
theorem Accounted.open_perm {done : List J} (hc : c.Accounted) (hc' : c'.Accounted)
    (haccepted : c'.accepted = c.accepted) (hfinished : c'.finished = c.finished ++ done) :
    (c.heldJobs ++ c.pool.queuedJobs).Perm (done ++ (c'.heldJobs ++ c'.pool.queuedJobs)) := by
  have hperm := hc.accepted_perm.symm.trans (haccepted ▸ hc'.accepted_perm)
  rw [hfinished, List.append_assoc] at hperm
  exact (List.perm_append_left_iff _).mp hperm

end Crew

namespace Workshop

variable {D : Type} {w w' : Workshop D}

/-! ## Writing tickets -/

section Write

variable {number : Nat} {x y : Completion} {tickets rest : List (Nat × Completion)}

theorem map_fst_write : (write number x tickets).map Prod.fst = tickets.map Prod.fst := by
  rw [write, List.map_map]
  refine List.map_congr_left fun t _ => ?_
  dsimp only [Function.comp]
  split <;> rfl

theorem map_fst_writeLost (jobs : List (TicketedJob D)) :
    (writeLost jobs tickets).map Prod.fst = tickets.map Prod.fst := by
  induction jobs generalizing tickets with
  | nil => rfl
  | cons j jobs ih => exact ih.trans map_fst_write

/-- What is written to a number is written in one place. -/
theorem perm_write (hnodup : (tickets.map Prod.fst).Nodup)
    (hperm : ((number, x) :: rest).Perm tickets) :
    ((number, y) :: rest).Perm (write number y tickets) := by
  have hkeys : (((number, x) :: rest).map Prod.fst).Nodup :=
    (hperm.map Prod.fst).nodup_iff.mpr hnodup
  have hothers : ∀ t ∈ rest, t.1 ≠ number := by
    intro t ht heq
    have hmem : t.1 ∈ rest.map Prod.fst := List.mem_map_of_mem ht
    exact (List.nodup_cons.mp hkeys).1 (heq ▸ hmem)
  have hwritten := hperm.map fun t => if t.1 = number then (t.1, y) else t
  rw [List.map_cons, if_pos rfl, List.map_congr_left fun t ht => if_neg (hothers t ht),
    List.map_id'] at hwritten
  exact hwritten

/-- The jobs that are lost together are lost one after the other. -/
theorem perm_writeLost (jobs : List (TicketedJob D)) (hnodup : (tickets.map Prod.fst).Nodup)
    (hperm : (jobs.map (fun j => (j.ticket, Completion.pending)) ++ rest).Perm tickets) :
    (jobs.map (fun j => (j.ticket, Completion.lost)) ++ rest).Perm (writeLost jobs tickets) := by
  induction jobs generalizing tickets rest with
  | nil => exact hperm
  | cons j jobs ih =>
    have hfirst := perm_write (y := .lost) hnodup hperm
    have hkeys : ((write j.ticket .lost tickets).map Prod.fst).Nodup := by
      rw [map_fst_write]
      exact hnodup
    exact List.perm_middle.symm.trans (ih hkeys (List.perm_middle.trans hfirst))

end Write

/-! ## How the jobs stand -/

/-- The jobs that may still be run. -/
def pendingJobs (w : Workshop D) : List (TicketedJob D) :=
  w.made ++ (w.crew.heldJobs ++ if w.released then [] else w.crew.pool.queuedJobs)

/-- The jobs that will never be run, because they were refused or dropped or went with the queue. -/
def lostJobs (w : Workshop D) : List (TicketedJob D) :=
  w.refused ++ w.discarded ++ if w.released then w.crew.pool.queuedJobs else []

theorem pendingJobs_of_open (hopen : w.released = false) :
    w.pendingJobs = w.made ++ (w.crew.heldJobs ++ w.crew.pool.queuedJobs) := by
  rw [pendingJobs, hopen]
  rfl

theorem pendingJobs_of_gone (hgone : w.released = true) (hhands : w.crew.hands = []) :
    w.pendingJobs = w.made := by
  rw [pendingJobs, hgone, Crew.heldJobs, Crew.held, hhands]
  exact List.append_nil _

theorem lostJobs_of_open (hopen : w.released = false) : w.lostJobs = w.refused ++ w.discarded := by
  rw [lostJobs, hopen]
  exact List.append_nil _

theorem lostJobs_of_gone (hgone : w.released = true) :
    w.lostJobs = w.refused ++ w.discarded ++ w.crew.pool.queuedJobs := by
  rw [lostJobs, hgone]
  rfl

/-- The tickets of jobs that stand in a certain way. -/
def entries (stand : TicketedJob D → Completion) (jobs : List (TicketedJob D)) :
    List (Nat × Completion) :=
  jobs.map fun j => (j.ticket, stand j)

theorem entries_append (stand : TicketedJob D → Completion) (jobs more : List (TicketedJob D)) :
    entries stand (jobs ++ more) = entries stand jobs ++ entries stand more :=
  List.map_append

/-- How all jobs stand. -/
def standing (w : Workshop D) : List (Nat × Completion) :=
  entries (fun _ => .pending) w.pendingJobs ++
    (entries (fun _ => .lost) w.lostJobs ++ entries w.ending w.crew.finished)

/-- **The tickets say how the jobs stand.** -/
structure Kept (w : Workshop D) : Prop where
  accounted : w.crew.Accounted
  numbers : w.tickets.map Prod.fst = List.range w.tickets.length
  standing : w.standing.Perm w.tickets
  /-- What is finished has come to its end. -/
  ended : ∀ j ∈ w.crew.finished, ∃ report, w.processed j = some report
  gone : w.released = true → w.crew.pool.shuttingDown = true ∧ w.crew.hands = []

theorem Kept.nodup (hw : w.Kept) : (w.tickets.map Prod.fst).Nodup := by
  rw [hw.numbers]
  exact List.nodup_range

/-- The tickets stand at the places of their numbers. -/
theorem Kept.number_eq (hw : w.Kept) {number i : Nat} {x : Completion}
    (hticket : w.tickets[i]? = some (number, x)) : number = i := by
  obtain ⟨hi, -⟩ := List.getElem?_eq_some_iff.mp hticket
  have hnumber : (w.tickets.map Prod.fst)[i]? = some i := by
    rw [hw.numbers, List.getElem?_range hi]
  rw [List.getElem?_map, hticket] at hnumber
  exact Option.some.inj hnumber

/-- The ticket of a number is the one at its place. -/
theorem Kept.find?_tickets (hw : w.Kept) (number : Nat) :
    w.tickets.find? (·.1 == number) = w.tickets[number]? := by
  cases hfind : w.tickets.find? (·.1 == number) with
  | some t =>
    have hkey : t.1 = number := by simpa using List.find?_some hfind
    obtain ⟨i, hentry⟩ := List.getElem?_of_mem (List.mem_of_find?_eq_some hfind)
    rw [← hkey, hw.number_eq hentry, hentry]
  | none =>
    cases hentry : w.tickets[number]? with
    | none => rfl
    | some t =>
      have hkey := hw.number_eq hentry
      have hnone := List.find?_eq_none.mp hfind t (List.mem_of_getElem? hentry)
      exact absurd (beq_iff_eq.mpr hkey) hnone

/-- A workshop with a runner has a queue. -/
theorem Kept.unreleased (hw : w.Kept) {l r : List (Option (Message (TicketedJob D)))}
    {hand : Option (Message (TicketedJob D))} (hhand : w.crew.hands = l ++ hand :: r) :
    w.released = false := by
  refine Bool.eq_false_iff.mpr fun hreleased => ?_
  have hnil := (hw.gone hreleased).2
  rw [hhand] at hnil
  exact List.append_ne_nil_of_right_ne_nil l (List.cons_ne_nil hand r) hnil

/-- The ticket of a job that is taken from the pending ones. -/
theorem standing_of_pending {j : TicketedJob D} {left : List (TicketedJob D)}
    (hpending : w.pendingJobs.Perm (j :: left)) :
    w.standing.Perm ((j.ticket, .pending) :: (entries (fun _ => .pending) left ++
      (entries (fun _ => .lost) w.lostJobs ++ entries w.ending w.crew.finished))) :=
  (hpending.map _).append_right _

/-- Writing leaves the numbers as they are. -/
theorem Kept.numbers_of_map_fst {tickets : List (Nat × Completion)} (hw : w.Kept)
    (hkeys : tickets.map Prod.fst = w.tickets.map Prod.fst) :
    tickets.map Prod.fst = List.range tickets.length := by
  have hlength : tickets.length = w.tickets.length := by simpa using congrArg List.length hkeys
  rw [hkeys, hw.numbers, hlength]

theorem ending_eq (hprocessed : w'.processed = w.processed) : w'.ending = w.ending := by
  funext j
  rw [ending, ending, hprocessed]

/-- A job that its caller had is lost. -/
theorem Kept.lose {l r : List (TicketedJob D)} {j : TicketedJob D} (hw : w.Kept)
    (htickets : w'.tickets = write j.ticket .lost w.tickets)
    (hprocessed : w'.processed = w.processed) (hcrew : w'.crew = w.crew)
    (hreleased : w'.released = w.released) (hmade : w.made = l ++ j :: r)
    (hmade' : w'.made = l ++ r)
    (hlost : (w'.refused ++ w'.discarded).Perm (j :: (w.refused ++ w.discarded))) : w'.Kept := by
  have hending := ending_eq hprocessed
  have hpending : w.pendingJobs.Perm (j :: w'.pendingJobs) := by
    rw [pendingJobs, pendingJobs, hmade, hmade', hcrew, hreleased]
    exact List.perm_middle.append_right _
  have hgone : w'.lostJobs.Perm (j :: w.lostJobs) := by
    rw [lostJobs, lostJobs, hcrew, hreleased]
    exact hlost.append_right _
  have hwritten := perm_write (y := .lost) hw.nodup
    ((standing_of_pending hpending).symm.trans hw.standing)
  refine ⟨hcrew ▸ hw.accounted, ?_, ?_, ?_, ?_⟩
  · rw [htickets]
    exact hw.numbers_of_map_fst map_fst_write
  · rw [htickets, Workshop.standing, hending, hcrew]
    exact (((hgone.map _).append_right _).append_left _).trans (List.perm_middle.trans hwritten)
  · rw [hcrew, hprocessed]
    exact hw.ended
  · rw [hcrew, hreleased]
    exact hw.gone

section Unwritten

variable (hw : w.Kept) (htickets : w'.tickets = w.tickets) (hprocessed : w'.processed = w.processed)
  (hlost : w'.refused ++ w'.discarded = w.refused ++ w.discarded) (haccounted : w'.crew.Accounted)
  (hfinished : w'.crew.finished = w.crew.finished)
include hw htickets hprocessed hlost haccounted hfinished

/-- Pending jobs may change places. -/
theorem Kept.of_open (hopen : w.released = false) (hopen' : w'.released = false)
    (hjobs : (w'.made ++ (w'.crew.heldJobs ++ w'.crew.pool.queuedJobs)).Perm
      (w.made ++ (w.crew.heldJobs ++ w.crew.pool.queuedJobs))) : w'.Kept := by
  have hending := ending_eq hprocessed
  refine ⟨haccounted, htickets ▸ hw.numbers, ?_, ?_, fun h => nomatch hopen'.symm.trans h⟩
  · rw [htickets]
    refine List.Perm.trans ?_ hw.standing
    rw [Workshop.standing, Workshop.standing, pendingJobs_of_open hopen, pendingJobs_of_open hopen',
      lostJobs_of_open hopen, lostJobs_of_open hopen', hlost, hending, hfinished]
    exact (hjobs.map _).append_right _
  · rw [hfinished, hprocessed]
    exact hw.ended

/-- What went with the queue stays lost. -/
theorem Kept.of_gone (hgone : w.released = true) (hgone' : w'.released = true)
    (hmade : w'.made = w.made) (hshut : w'.crew.pool.shuttingDown = true)
    (hhands : w'.crew.hands = []) (hjobs : w'.crew.pool.queuedJobs.Perm w.crew.pool.queuedJobs) :
    w'.Kept := by
  have hending := ending_eq hprocessed
  refine ⟨haccounted, htickets ▸ hw.numbers, ?_, ?_, fun _ => ⟨hshut, hhands⟩⟩
  · rw [htickets]
    refine List.Perm.trans ?_ hw.standing
    rw [Workshop.standing, Workshop.standing, pendingJobs_of_gone hgone (hw.gone hgone).2,
      pendingJobs_of_gone hgone' hhands, lostJobs_of_gone hgone, lostJobs_of_gone hgone', hlost,
      hending, hfinished, hmade]
    exact (((hjobs.append_left _).map _).append_right _).append_left _
  · rw [hfinished, hprocessed]
    exact hw.ended

end Unwritten

/-- A job in a hand is finished. -/
theorem Kept.finish {j : TicketedJob D} {report : Option ExecutedCommand} (hw : w.Kept)
    (htickets : w'.tickets = write j.ticket (.ofRun (some report)) w.tickets)
    (hprocessed : w'.processed = w.processed)
    (hlost : w'.refused ++ w'.discarded = w.refused ++ w.discarded) (haccounted : w'.crew.Accounted)
    (haccepted : w'.crew.accepted = w.crew.accepted)
    (hfinished : w'.crew.finished = w.crew.finished ++ [j]) (hmade : w'.made = w.made)
    (hopen : w.released = false) (hopen' : w'.released = false)
    (hended : w.processed j = some report) : w'.Kept := by
  have hending := ending_eq hprocessed
  have hentries : entries w.ending (w.crew.finished ++ [j]) =
      entries w.ending w.crew.finished ++ [(j.ticket, .ofRun (some report))] := by
    rw [entries_append, ← hended]
    rfl
  have hpending : w.pendingJobs.Perm (j :: w'.pendingJobs) := by
    rw [pendingJobs_of_open hopen, pendingJobs_of_open hopen', hmade]
    have hjobs := hw.accounted.open_perm haccounted haccepted hfinished
    exact (hjobs.append_left _).trans List.perm_middle
  have hwritten := perm_write (y := .ofRun (some report)) hw.nodup
    ((standing_of_pending hpending).symm.trans hw.standing)
  refine ⟨haccounted, ?_, ?_, ?_, fun h => nomatch hopen'.symm.trans h⟩
  · rw [htickets]
    exact hw.numbers_of_map_fst map_fst_write
  · rw [htickets]
    refine List.Perm.trans ?_ hwritten
    rw [Workshop.standing, lostJobs_of_open hopen, lostJobs_of_open hopen', hlost, hending,
      hfinished, hentries, ← List.append_assoc, ← List.append_assoc,
      ← List.append_assoc (entries _ w'.pendingJobs)]
    exact List.perm_append_singleton _ _
  · rw [hfinished, hprocessed]
    intro done hdone
    rcases List.mem_append.mp hdone with hdone | hdone
    · exact hw.ended done hdone
    · exact ⟨report, List.mem_singleton.mp hdone ▸ hended⟩

/-- The queue goes, and its jobs are lost. -/
theorem Kept.release (hw : w.Kept)
    (htickets : w'.tickets = writeLost w.crew.pool.queuedJobs w.tickets)
    (hprocessed : w'.processed = w.processed)
    (hlost : w'.refused ++ w'.discarded = w.refused ++ w.discarded) (hcrew : w'.crew = w.crew)
    (hmade : w'.made = w.made) (hopen : w.released = false) (hgone : w'.released = true)
    (hshut : w.crew.pool.shuttingDown = true) (hhands : w.crew.hands = []) : w'.Kept := by
  have hending := ending_eq hprocessed
  have hpending : w.pendingJobs.Perm (w.crew.pool.queuedJobs ++ w.made) := by
    rw [pendingJobs_of_open hopen, Crew.heldJobs, Crew.held, hhands]
    exact List.perm_append_comm
  have hjobs := (hpending.map fun j => (j.ticket, Completion.pending)).symm.append_right
    (entries (fun _ => .lost) w.lostJobs ++ entries w.ending w.crew.finished)
  rw [List.map_append, List.append_assoc] at hjobs
  have hwritten := perm_writeLost _ hw.nodup (hjobs.trans hw.standing)
  refine ⟨hcrew ▸ hw.accounted, ?_, ?_, ?_, fun _ => hcrew ▸ ⟨hshut, hhands⟩⟩
  · rw [htickets]
    exact hw.numbers_of_map_fst (map_fst_writeLost _)
  · rw [htickets]
    refine List.Perm.trans ?_ hwritten
    have hlostJobs : w'.lostJobs.Perm (w.crew.pool.queuedJobs ++ w.lostJobs) := by
      rw [lostJobs_of_gone hgone, lostJobs_of_open hopen, hlost, hcrew]
      exact List.perm_append_comm
    have hentries := (hlostJobs.map fun j => (j.ticket, Completion.lost)).append_right
      (entries w.ending w.crew.finished)
    rw [List.map_append, List.append_assoc] at hentries
    rw [Workshop.standing, pendingJobs_of_gone hgone (hcrew ▸ hhands), hending, hcrew, hmade]
    exact (hentries.append_left _).trans (List.perm_append_comm_assoc _ _ _)
  · rw [hcrew, hprocessed]
    exact hw.ended

theorem Kept.of_start {registry : Registry D} {config : HostConfig}
    (hstart : start registry config = .ok w) : w.Kept := by
  obtain ⟨crew, hcrew, rfl⟩ := start_ok hstart
  have haccounted : crew.Accounted := .of_start hcrew
  obtain ⟨-, rfl⟩ := Crew.start_ok hcrew
  refine ⟨haccounted, rfl, ?_, (fun j hj => nomatch hj), (fun h => nomatch h)⟩
  simp [Workshop.standing, pendingJobs, lostJobs, entries, Crew.heldJobs, Crew.held, Pool.queuedJobs,
    Pool.start, Pool.publish]

theorem Kept.step (hs : Step w w') (hw : w.Kept) : w'.Kept := by
  have haccounted : w'.crew.Accounted := hw.accounted.step hs.crew
  cases hs with
  | made job =>
    refine ⟨haccounted, ?_, ?_, hw.ended, hw.gone⟩
    · simp [make, hw.numbers, List.range_succ]
    · have hpending : (w.make job).pendingJobs.Perm (⟨w.tickets.length, job⟩ :: w.pendingJobs) := by
        simp only [pendingJobs, make, List.append_assoc, List.singleton_append]
        exact List.perm_middle
      have hstanding := standing_of_pending hpending
      exact hstanding.trans ((hw.standing.cons _).trans (List.perm_append_singleton _ _).symm)
  | @accepted l r j pool hmade haccept =>
    obtain ⟨hopen, rfl⟩ := Pool.submit_ok haccept
    have hunreleased : w.released = false :=
      Bool.eq_false_iff.mpr fun h => nomatch hopen.symm.trans (hw.gone h).1
    have hqueued : (w.crew.pool.enqueue [.job j]).queuedJobs = w.crew.pool.queuedJobs ++ [j] :=
      List.filterMap_append
    have hjobs : (l ++ r ++ (w.crew.heldJobs ++ (w.crew.pool.enqueue [.job j]).queuedJobs)).Perm
        (w.made ++ (w.crew.heldJobs ++ w.crew.pool.queuedJobs)) := by
      rw [hqueued, hmade, ← List.append_assoc w.crew.heldJobs, ← List.append_assoc (l ++ r)]
      exact (List.perm_append_singleton _ _).trans (List.perm_middle.symm.append_right _)
    exact hw.of_open rfl rfl rfl haccounted rfl hunreleased hunreleased hjobs
  | refused hmade hrefuse =>
    exact hw.lose rfl rfl rfl rfl hmade rfl ((List.perm_append_singleton _ _).append_right _)
  | discarded hmade =>
    refine hw.lose rfl rfl rfl rfl hmade rfl ?_
    rw [← List.append_assoc]
    exact List.perm_append_singleton _ _
  | @moved crew exits hs haccepted hfinished hexited =>
    have hnone : crew.finished = w.crew.finished ++ [] :=
      hfinished.trans (List.append_nil _).symm
    have hjobs := hw.accounted.open_perm haccounted haccepted hnone
    rw [List.nil_append] at hjobs
    cases hreleased : w.released with
    | false =>
      exact hw.of_open rfl rfl rfl haccounted hfinished hreleased rfl
        (hjobs.symm.append_left _)
    | true =>
      obtain ⟨hshut, hhands⟩ := hw.gone hreleased
      have hhands' := hs.hands_of_nil hhands
      rw [Crew.heldJobs, Crew.heldJobs, Crew.held, Crew.held, hhands, hhands'] at hjobs
      exact hw.of_gone rfl rfl rfl haccounted hfinished hreleased rfl rfl
        (hs.shuttingDown hshut) hhands' hjobs.symm
  | @finished l r j report hhand hended =>
    have hunreleased := hw.unreleased hhand
    exact hw.finish rfl rfl rfl haccounted rfl rfl rfl hunreleased hunreleased hended
  | released hshut hgone hheld => exact hw.release rfl rfl rfl rfl rfl hheld rfl hshut hgone

theorem Kept.of_run {registry : Registry D} {config : HostConfig} {w₀ : Workshop D}
    {moves : List (Move D)} (hstart : start registry config = .ok w₀)
    (hrun : w₀.run moves = some w) : w.Kept :=
  run_keeps Kept.step hrun (.of_start hstart)

/-! ## Where jobs are -/

/-- Every job that was made has a number of its own. -/
theorem Kept.tickets_perm (hw : w.Kept) :
    ((w.made ++ (w.refused ++ w.discarded) ++ w.crew.accepted).map (·.ticket)).Perm
      (List.range w.tickets.length) := by
  have hstanding := hw.standing.map Prod.fst
  have haccepted := hw.accounted.accepted_perm.map (·.ticket)
  rw [hw.numbers] at hstanding
  refine List.Perm.trans ?_ hstanding
  refine List.perm_iff_count.mpr fun number => ?_
  have hcount := haccepted.count_eq number
  have hentries : ∀ (stand : TicketedJob D → Completion) (jobs : List (TicketedJob D)),
      (entries stand jobs).map Prod.fst = jobs.map (·.ticket) := fun _ _ => List.map_map
  rw [Workshop.standing]
  cases hreleased : w.released with
  | false =>
    rw [pendingJobs_of_open hreleased, lostJobs_of_open hreleased]
    simp only [List.map_append, hentries, List.count_append] at hcount ⊢
    omega
  | true =>
    have hhands := (hw.gone hreleased).2
    rw [Crew.heldJobs, Crew.held, hhands] at hcount
    rw [pendingJobs_of_gone hreleased hhands, lostJobs_of_gone hreleased]
    simp only [List.map_append, hentries, List.count_append, List.filterMap_nil, List.map_nil,
      List.count_nil] at hcount ⊢
    omega

theorem Kept.accepted_nodup (hw : w.Kept) : (w.crew.accepted.map (·.ticket)).Nodup := by
  have hnodup := hw.tickets_perm.nodup_iff.mpr List.nodup_range
  rw [List.map_append] at hnodup
  exact (List.nodup_append.mp hnodup).2.1

/-- A job that was refused or dropped was not accepted. -/
theorem Kept.not_accepted (hw : w.Kept) {j k : TicketedJob D} (hj : j ∈ w.refused ++ w.discarded)
    (hk : k ∈ w.crew.accepted) : j.ticket ≠ k.ticket := by
  have hnodup := hw.tickets_perm.nodup_iff.mpr List.nodup_range
  rw [List.map_append] at hnodup
  exact (List.nodup_append.mp hnodup).2.2 _ (List.mem_map_of_mem (List.mem_append_right _ hj)) _
    (List.mem_map_of_mem hk)

/-- The job of a ticket is in a hand. -/
def isHeld (number : Nat) (hand : Option (Message (TicketedJob D))) : Bool :=
  (hand.bind Message.job?).any (·.ticket == number)

theorem countP_heldJobs (number : Nat) : w.crew.heldJobs.countP (·.ticket == number) =
    w.crew.hands.countP (isHeld number) := by
  rw [Crew.heldJobs, Crew.held, List.filterMap_filterMap, List.countP_filterMap]
  refine List.countP_congr fun hand _ => ?_
  rcases hand with _ | (j | _ | _) <;> rfl

/-! ## The main result -/

/-- **Jobs are taken first in, first out, at most once, and none disappears.**  After any moves, the
jobs that were dequeued are the first of those that were accepted, in the order in which they were
accepted; none was dequeued twice, and none that was refused; and until the queue goes, each
accepted job is once in the queue, or once in one hand, or once finished. -/
theorem jobs_in_custody {registry : Registry D} {config : HostConfig} {w₀ : Workshop D}
    {moves : List (Move D)} (hstart : start registry config = .ok w₀)
    (hrun : w₀.run moves = some w) :
    w.crew.dequeued <+: w.crew.accepted ∧
      (w.crew.dequeued.map (·.ticket)).Nodup ∧
      (∀ j ∈ w.refused, j.ticket ∉ w.crew.dequeued.map (·.ticket)) ∧
      (w.released = false → ∀ j ∈ w.crew.accepted,
        w.crew.pool.queuedJobs.countP (·.ticket == j.ticket) +
          w.crew.hands.countP (isHeld j.ticket) +
          w.crew.finished.countP (·.ticket == j.ticket) = 1) := by
  have hw : w.Kept := .of_run hstart hrun
  have htaken : w.crew.dequeued <+: w.crew.accepted := ⟨_, hw.accounted.accepted_eq.symm⟩
  have honce := hw.accepted_nodup
  refine ⟨htaken, honce.sublist (htaken.sublist.map _), fun j hj hdequeued => ?_,
    fun hopen j hj => ?_⟩
  · obtain ⟨k, hk, heq⟩ := List.mem_map.mp hdequeued
    exact hw.not_accepted (List.mem_append_left _ hj) (htaken.subset hk) heq.symm
  · have hone : w.crew.accepted.countP (·.ticket == j.ticket) = 1 := by
      have hcount := List.count_eq_one_of_mem honce (List.mem_map_of_mem hj)
      rwa [List.count, List.countP_map] at hcount
    rw [hw.accounted.accepted_perm.countP_eq, List.countP_append, List.countP_append,
      countP_heldJobs] at hone
    omega

/-- Two jobs are accepted and one is refused; the first one is in a hand. -/
theorem jobs_in_custody_closing : ∃ w₀ w, start Small.registry Small.config = .ok w₀ ∧
    w₀.run [.make (Small.job none), .make (Small.job none), .make (Small.job none), .submit 0,
      .submit 0, .take 0, .beginShutdown, .submit 0] = some w ∧
    w.crew.accepted.map (·.ticket) = [0, 1] ∧ w.crew.dequeued.map (·.ticket) = [0] ∧
    w.refused.map (·.ticket) = [2] ∧ w.crew.dequeued <+: w.crew.accepted ∧
    (∀ j ∈ w.refused, j.ticket ∉ w.crew.dequeued.map (·.ticket)) ∧
    ∀ j ∈ w.crew.accepted, w.crew.pool.queuedJobs.countP (·.ticket == j.ticket) +
      w.crew.hands.countP (isHeld j.ticket) +
      w.crew.finished.countP (·.ticket == j.ticket) = 1 := by
  obtain ⟨w₀, hstart⟩ := Small.exists_start
  have hends : (start Small.registry Small.config).toOption.bind (fun w₀ =>
      (w₀.run [.make (Small.job none), .make (Small.job none), .make (Small.job none), .submit 0,
        .submit 0, .take 0, .beginShutdown, .submit 0]).map fun w =>
          (w.crew.accepted.map (·.ticket), w.crew.dequeued.map (·.ticket),
            w.refused.map (·.ticket), w.released)) = some ([0, 1], [0], [2], false) := by
    decide +kernel
  rw [hstart] at hends
  obtain ⟨w, hrun, hw⟩ := Option.map_eq_some_iff.mp hends
  obtain ⟨haccepted, hdequeued, hrefused, hopen⟩ := by simpa only [Prod.mk.injEq] using hw
  obtain ⟨htaken, -, hnever, hone⟩ := jobs_in_custody hstart hrun
  exact ⟨w₀, w, hstart, hrun, haccepted, hdequeued, hrefused, htaken, hnever, hone hopen⟩

end Workshop
end CommandEngine
