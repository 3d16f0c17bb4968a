import CommandEngine.Proofs.Host.Mirror
import CommandEngine.Proofs.Records
import Mathlib.Logic.Relation

/-!
# The channel of a job

A job and its caller are the two ends of a channel.  The job waits to be run and is dropped, or it
is run, streams its events one by one and ends; the caller receives what was sent, in order.  These
are all the steps of a channel (`Channel.Step`), so what was received and what waits is always the
first part of what the job streams, and all of it when the job has ended; after that nothing is
added.

A host has many channels, and the state of each of them is spread over it: the ticket has the events
that wait and tells whether the job has ended, and what is still to be streamed is with whoever has
the job: its caller, the queue, or the runner that is in the middle of it.  `dues` collects it from
there.  A host `Sees` a channel if its ticket and its dues are those of a state of which `P` holds.
What is shown for every `P` that the steps of a channel keep is true of the states that a channel
can come to, from wherever it began.
-/
namespace CommandEngine

/-- How the job of a channel stands. -/
inductive Progress where
  /-- The job was not begun, and will stream these events. -/
  | queued (events : List Object)
  /-- The job is being run, and these events are still to be streamed. -/
  | running (rest : List Object)
  | ended
  /-- The job will not be run. -/
  | dropped

namespace Progress

/-- The job is somewhere. -/
def isOpen : Progress → Bool
  | queued _ | running _ => true
  | ended | dropped => false

/-- How the ticket of a job stands. -/
def Fits : Progress → Completion → Prop
  | queued _, completion | running _, completion => completion = .pending
  | ended, completion => completion ≠ .pending
  | dropped, completion => completion = .lost

theorem Fits.pending {p : Progress} {completion : Completion} (hfits : p.Fits completion)
    (hopen : p.isOpen) : completion = .pending := by
  cases p with
  | queued | running => exact hfits
  | ended | dropped => cases hopen

theorem Fits.isOpen_eq_false_iff {p : Progress} {completion : Completion}
    (hfits : p.Fits completion) : p.isOpen = false ↔ completion ≠ .pending := by
  cases p with
  | queued | running => exact ⟨nofun, fun hends => absurd hfits hends⟩
  | ended => exact ⟨fun _ => hfits, fun _ => rfl⟩
  | dropped =>
    obtain rfl : completion = .lost := hfits
    exact ⟨nofun, fun _ => rfl⟩

end Progress

/-- A stream of events from a job to its caller. -/
structure Channel where
  /-- What the caller received. -/
  received : List Object
  /-- What was sent and not received yet. -/
  waiting : List Object
  progress : Progress

namespace Channel

/-- The channel of a job that will stream these events. -/
def fresh (events : List Object) : Channel := ⟨[], [], .queued events⟩

/-- A step of a channel. -/
inductive Step : Channel → Channel → Prop
  | begun (received waiting events : List Object) :
    Step ⟨received, waiting, .queued events⟩ ⟨received, waiting, .running events⟩
  | sent (received waiting : List Object) (event : Object) (rest : List Object) :
    Step ⟨received, waiting, .running (event :: rest)⟩
      ⟨received, waiting ++ [event], .running rest⟩
  | ended (received waiting : List Object) :
    Step ⟨received, waiting, .running []⟩ ⟨received, waiting, .ended⟩
  | dropped (received waiting events : List Object) :
    Step ⟨received, waiting, .queued events⟩ ⟨received, waiting, .dropped⟩
  | received (received : List Object) (event : Object) (waiting : List Object)
    (progress : Progress) :
    Step ⟨received, event :: waiting, progress⟩ ⟨received ++ [event], waiting, progress⟩

/-- What a channel comes to. -/
abbrev Reaches : Channel → Channel → Prop := Relation.ReflTransGen Step

/-- The steps of a channel keep the property. -/
def Stable (P : Channel → Prop) : Prop := ∀ ⦃c c'⦄, Step c c' → P c → P c'

theorem stable_reaches (c : Channel) : Stable c.Reaches := fun _ _ hstep hreach => hreach.tail hstep

/-- What was sent so far. -/
def sent (c : Channel) : List Object := c.received ++ c.waiting

/-- The channel is that of a job that streams these events, or was to stream them. -/
def Carries (events : List Object) (c : Channel) : Prop :=
  match c.progress with
  | .queued rest => c.sent = [] ∧ rest = events
  | .running rest => c.sent ++ rest = events
  | .ended => c.sent = events
  | .dropped => c.sent = []

theorem Step.carries {c c' : Channel} {events : List Object} (hstep : Step c c')
    (hc : c.Carries events) : c'.Carries events := by
  cases hstep with
  | begun =>
    obtain ⟨hnone, rfl⟩ := hc
    exact congrArg (· ++ _) hnone
  | sent received waiting event rest =>
    have hsum : (received ++ waiting) ++ event :: rest = events := hc
    show (received ++ (waiting ++ [event])) ++ rest = events
    rw [← hsum, ← List.append_assoc, List.append_assoc _ [event]]
    rfl
  | ended received waiting => exact (List.append_nil (received ++ waiting)).symm.trans hc
  | dropped => exact hc.1
  | received received event waiting progress =>
    have hsent : (⟨received ++ [event], waiting, progress⟩ : Channel).sent =
        (⟨received, event :: waiting, progress⟩ : Channel).sent :=
      (List.append_cons received event waiting).symm
    unfold Carries at *
    rwa [hsent]

/-- **What a channel carries**, from its first state on. -/
theorem carries_of_reaches {events : List Object} {c : Channel} (hreach : (fresh events).Reaches c) :
    c.Carries events := by
  induction hreach with
  | refl => exact ⟨rfl, rfl⟩
  | tail _ hstep ih => exact hstep.carries ih

/-- What is sent in the end. -/
def carried (events : List Object) (c : Channel) : List Object :=
  match c.progress with
  | .dropped => []
  | .queued _ | .running _ | .ended => events

section Carries

variable {events rest : List Object} {c : Channel}

theorem Carries.ordered (hc : c.Carries events) : c.sent <+: c.carried events := by
  obtain ⟨received, waiting, progress⟩ := c
  cases progress with
  | queued =>
    rw [hc.1]
    exact List.nil_prefix
  | running rest => exact ⟨rest, hc⟩
  | ended | dropped => exact ⟨[], (List.append_nil _).trans hc⟩

theorem Carries.running (hc : c.Carries events) (hrest : c.progress = .running rest) :
    c.sent ++ rest = c.carried events := by
  obtain ⟨received, waiting, progress⟩ := c
  obtain rfl : progress = .running rest := hrest
  exact hc

theorem Carries.complete (hc : c.Carries events) (hclosed : c.progress.isOpen = false) :
    c.sent = c.carried events := by
  obtain ⟨received, waiting, progress⟩ := c
  cases progress with
  | queued | running => cases hclosed
  | ended | dropped => exact hc

end Carries

/-- **When the job has ended nothing is sent.** -/
theorem closed_of_reaches {c c' : Channel} (hclosed : c.progress.isOpen = false)
    (hreach : c.Reaches c') : c'.progress = c.progress ∧ c'.sent = c.sent := by
  induction hreach with
  | refl => exact ⟨rfl, rfl⟩
  | tail _ hstep ih =>
    obtain ⟨hprogress, hsent⟩ := ih
    rw [← hprogress] at hclosed
    rw [← hprogress, ← hsent]
    cases hstep with
    | begun | sent | ended | dropped => cases hclosed
    | received received event waiting => exact ⟨rfl, (List.append_cons received event waiting).symm⟩

end Channel

/-! ## What is due to callers -/

/-- What is still to be streamed for a ticket. -/
abbrev Due := Nat × Progress

/-- What is due from a runner in this phase. -/
def Phase.due? : Phase → Option Due
  | .waiting _ work | .granted work => some (work.ticket, .running (streamed work.rest))
  | .endless ticket => some (ticket, .running [])
  | .starting | .queueing | .receiving => none

/-- What is due from a job that was not begun; `stream` tells what jobs stream. -/
def TicketedJob.due {D : Type} (stream : TicketedJob D → List Object) (j : TicketedJob D) : Due :=
  (j.ticket, .queued (stream j))

/-- What is due from runners. -/
def runnerDues (runners : List Runner) : List Due := runners.filterMap (·.phase.due?)

/-- What is due for one ticket. -/
def duesFor (n : Nat) (dues : List Due) : List Progress :=
  dues.filterMap fun due => if due.1 = n then some due.2 else none

section DuesFor

variable {n m : Nat} {p : Progress} {dues : List Due}

theorem duesFor_cons_self : duesFor n ((n, p) :: dues) = p :: duesFor n dues :=
  List.filterMap_cons_some (if_pos rfl)

theorem duesFor_cons_of_ne (hne : m ≠ n) : duesFor n ((m, p) :: dues) = duesFor n dues :=
  List.filterMap_cons_none (if_neg hne)

theorem mem_duesFor : p ∈ duesFor n dues ↔ (n, p) ∈ dues := by
  simp only [duesFor, List.mem_filterMap]
  constructor
  · rintro ⟨⟨k, q⟩, hmem, heq⟩
    split at heq
    · rename_i hk
      cases hk
      cases heq
      exact hmem
    · cases heq
  · exact fun hmem => ⟨_, hmem, if_pos rfl⟩

end DuesFor

namespace Progress

/-- What is due from a job that stands so. -/
def due (p : Progress) : List Progress := if p.isOpen then [p] else []

/-- What is due from a job that stands so, for its ticket. -/
def dueFor (m : Nat) (p : Progress) : List Due := p.due.map (m, ·)

variable {n m : Nat} {p q : Progress} {dues : List Due}

theorem duesFor_dueFor_self : duesFor n (p.dueFor n ++ dues) = p.due ++ duesFor n dues := by
  cases p with
  | queued | running => exact duesFor_cons_self
  | ended | dropped => rfl

theorem duesFor_dueFor_of_ne (hne : m ≠ n) : duesFor n (p.dueFor m ++ dues) = duesFor n dues := by
  cases p with
  | queued | running => exact duesFor_cons_of_ne hne
  | ended | dropped => rfl

theorem due_of_perm {ps : List Progress} (hperm : p.due.Perm ps) : ps = p.due := by
  cases p with
  | queued | running => exact (List.singleton_perm.mp hperm).symm
  | ended | dropped => exact List.nil_perm.mp hperm

/-- A job has one due at most. -/
theorem due_eq_cons {ps : List Progress} (hdue : q :: ps = p.due) :
    p.isOpen = true ∧ q = p ∧ ps = [] := by
  unfold due at hdue
  split at hdue
  · obtain ⟨rfl, rfl⟩ := List.cons.inj hdue
    exact ⟨‹_›, rfl, rfl⟩
  · cases hdue

theorem eq_of_mem_due (hdue : q ∈ p.due) : q = p := by
  unfold due at hdue
  split at hdue
  · exact List.mem_singleton.mp hdue
  · cases hdue

end Progress

/-- What is known of the callers of a host besides the jobs that they have. -/
structure Ledger (D : Type) where
  /-- The jobs that were ever made, the job of ticket `n` at place `n`. -/
  jobs : List (Job D)
  /-- The events that callers received, with their tickets, in order. -/
  received : List (Nat × Object)
  /-- The tickets of jobs that were dropped. -/
  dropped : List Nat

namespace Ledger

variable {D : Type}

/-- What the caller with a ticket received. -/
def receivedFor (l : Ledger D) (n : Nat) : List Object :=
  l.received.filterMap fun r => if r.1 = n then some r.2 else none

/-- A job is made. -/
def make (l : Ledger D) (job : Job D) : Ledger D := { l with jobs := l.jobs ++ [job] }

/-- A caller receives an event, if there is one. -/
def receive (l : Ledger D) (ticket : Nat) (event : Option Object) : Ledger D :=
  { l with received := l.received ++ event.toList.map (ticket, ·) }

/-- Jobs are dropped. -/
def drop (l : Ledger D) (tickets : List Nat) : Ledger D :=
  { l with dropped := l.dropped ++ tickets }

theorem drop_drop (l : Ledger D) (first rest : List Nat) :
    (l.drop first).drop rest = l.drop (first ++ rest) :=
  congrArg (Ledger.mk l.jobs l.received) (List.append_assoc ..)

theorem receivedFor_receive (l : Ledger D) (n ticket : Nat) (event : Option Object) :
    (l.receive ticket event).receivedFor n =
      l.receivedFor n ++ if ticket = n then event.toList else [] := by
  have hnew : (event.toList.map (ticket, ·)).filterMap
      (fun r : Nat × Object => if r.1 = n then some r.2 else none) =
        if ticket = n then event.toList else [] := by
    cases event with
    | none => simp
    | some e => by_cases hn : ticket = n <;> simp [hn]
  rw [receivedFor, receive, List.filterMap_append, hnew]
  rfl

end Ledger

namespace Host

variable {D : Type} {h h' : Host D}

/-! ## What a host shows of a channel -/

/-- The ticket `n` of the host is that of a channel in a state of which `P` holds, when these are all
its dues; or it was not issued yet. -/
inductive Sees (P : Channel → Prop) (n : Nat) (l : Ledger D) (h : Host D) (dues : List Due) : Prop
  | unissued (hnew : h.issued ≤ n) (hnone : h.ticket? n = none) (hdues : duesFor n dues = [])
    (hreceived : l.receivedFor n = []) (hdropped : n ∉ l.dropped)
  | issued {t : Ticket} {p : Progress} (hold : n < h.issued) (hticket : h.ticket? n = some t)
    (hdues : duesFor n dues = p.due) (hfits : p.Fits t.completion)
    (hdropped : p = .dropped ↔ n ∈ l.dropped) (hstate : P ⟨l.receivedFor n, t.events, p⟩)

variable {P : Channel → Prop} {n m : Nat} {l l' : Ledger D} {dues dues' : List Due}

theorem Sees.mono {Q : Channel → Prop} (hs : Sees P n l h dues) (hPQ : ∀ c, P c → Q c) :
    Sees Q n l h dues := by
  cases hs with
  | unissued hnew hnone hdues hreceived hdropped =>
    exact .unissued hnew hnone hdues hreceived hdropped
  | issued hold hticket hdues hfits hdropped hstate =>
    exact .issued hold hticket hdues hfits hdropped (hPQ _ hstate)

/-- It does not matter where a host has its dues. -/
theorem Sees.perm (hs : Sees P n l h dues) (hperm : dues.Perm dues') : Sees P n l h dues' := by
  have hfor : (duesFor n dues).Perm (duesFor n dues') := hperm.filterMap _
  cases hs with
  | unissued hnew hnone hdues hreceived hdropped =>
    rw [hdues] at hfor
    exact .unissued hnew hnone (List.nil_perm.mp hfor) hreceived hdropped
  | @issued t p hold hticket hdues hfits hdropped hstate =>
    rw [hdues] at hfor
    exact .issued hold hticket (Progress.due_of_perm hfor) hfits hdropped hstate

/-- A host with the same tickets. -/
theorem Sees.of_tickets (hs : Sees P n l h dues) (hissued : h'.issued = h.issued)
    (htickets : h'.tickets = h.tickets) : Sees P n l h' dues := by
  have hticket? : h'.ticket? n = h.ticket? n := by rw [ticket?, ticket?, htickets]
  cases hs with
  | unissued hnew hnone hdues hreceived hdropped =>
    exact .unissued (hissued ▸ hnew) (hticket?.trans hnone) hdues hreceived hdropped
  | issued hold hticket hdues hfits hdropped hstate =>
    exact .issued (hissued ▸ hold) (hticket?.trans hticket) hdues hfits hdropped hstate

/-- **One channel takes a step**, and the others stay as they are.  The channel is that of the due
`(m, p)`; the step takes it to `q` and its ticket to `f t`. -/
theorem Sees.advance {p q : Progress} {f : Ticket → Ticket}
    (hs : Sees P n l h ((m, p) :: dues)) (hf : ∀ t, (f t).number = t.number)
    (hstep : ∀ received t, P ⟨received, t.events, p⟩ → P ⟨received, (f t).events, q⟩)
    (hq : ∀ t : Ticket, t.completion = .pending → q.Fits (f t).completion)
    (hreceived : l'.received = l.received)
    (hdropped : ∀ k, k ∈ l'.dropped ↔ k ∈ l.dropped ∨ k = m ∧ q = .dropped) :
    Sees P n l' (h.updateTicket m f) (q.dueFor m ++ dues) := by
  have hsame : l'.receivedFor n = l.receivedFor n := by
    rw [Ledger.receivedFor, Ledger.receivedFor, hreceived]
  by_cases hmn : m = n
  · subst hmn
    cases hs with
    | unissued _ _ hdues =>
      rw [duesFor_cons_self] at hdues
      cases hdues
    | @issued t p₀ hold hticket hdues hfits hundropped hstate =>
      -- the channel has one due, so this is it
      obtain ⟨hopen, rfl, hnone⟩ := Progress.due_eq_cons (duesFor_cons_self.symm.trans hdues)
      have hticket? := ticket?_updateTicket h m m hf
      rw [hticket, Option.map_some, if_pos rfl] at hticket?
      refine .issued hold hticket? ?_ (hq t (hfits.pending hopen)) ?_ (hsame ▸ hstep _ t hstate)
      · rw [Progress.duesFor_dueFor_self, hnone, List.append_nil]
      · have hnot : m ∉ l.dropped := by
          rw [← hundropped]
          rintro rfl
          cases hopen
        simp [hdropped, hnot]
  · have hother := ticket?_updateTicket_of_ne h hf (Ne.symm hmn)
    have hfor : duesFor n (q.dueFor m ++ dues) = duesFor n ((m, p) :: dues) := by
      rw [Progress.duesFor_dueFor_of_ne hmn, duesFor_cons_of_ne hmn]
    have hkept : n ∈ l'.dropped ↔ n ∈ l.dropped := by simp [hdropped, Ne.symm hmn]
    cases hs with
    | unissued hnew hnone hdues hunreceived hundropped =>
      exact .unissued hnew (hother.trans hnone) (hfor.trans hdues) (hsame.trans hunreceived)
        (mt hkept.mp hundropped)
    | issued hold hticket hdues hfits hundropped hstate =>
      exact .issued hold (hother.trans hticket) (hfor.trans hdues) hfits
        (hundropped.trans hkept.symm) (hsame.symm ▸ hstate)

/-! ## Steps of a host that are steps of a channel -/

section Steps

variable (hP : Channel.Stable P)
include hP

/-- A job is begun. -/
theorem Sees.begun {events : List Object} (hs : Sees P n l h ((m, .queued events) :: dues)) :
    Sees P n l h ((m, .running events) :: dues) := by
  have hadvanced : Sees P n l (h.updateTicket m id) ((m, .running events) :: dues) :=
    hs.advance (fun _ => rfl) (fun _ _ => hP (.begun ..)) (fun _ hpending => hpending) rfl (by simp)
  have hsame : h.updateTicket m id = h := by simp [updateTicket]
  rwa [hsame] at hadvanced

/-- The caller of a job is sent an event. -/
theorem Sees.sent {event : Object} {rest : List Object}
    (hs : Sees P n l h ((m, .running (event :: rest)) :: dues)) :
    Sees P n l (h.updateTicket m fun t => { t with events := t.events ++ [event] })
      ((m, .running rest) :: dues) :=
  hs.advance (q := .running rest) (f := fun t => { t with events := t.events ++ [event] })
    (fun _ => rfl) (fun _ _ => hP (.sent ..)) (fun _ hpending => hpending) rfl (by simp)

/-- A job ends. -/
theorem Sees.ended {completion : Completion} (hs : Sees P n l h ((m, .running []) :: dues))
    (hends : completion ≠ .pending) : Sees P n l (h.complete m completion) dues :=
  hs.advance (q := .ended) (f := fun t => { t with completion }) (fun _ => rfl)
    (fun _ _ => hP (.ended ..)) (fun _ _ => hends) rfl (by simp)

/-- A job is dropped. -/
theorem Sees.lost {events : List Object} (hs : Sees P n l h ((m, .queued events) :: dues)) :
    Sees P n (l.drop [m]) (h.lose m) dues :=
  hs.advance (q := .dropped) (f := fun t => { t with completion := .lost }) (fun _ => rfl)
    (fun _ _ => hP (.dropped ..)) (fun _ _ => rfl) rfl (by simp [Ledger.drop])

/-- Several jobs are dropped. -/
theorem Sees.lostAll {stream : TicketedJob D → List Object} {jobs : List (TicketedJob D)}
    (hs : Sees P n l h (jobs.map (TicketedJob.due stream) ++ dues)) :
    Sees P n (l.drop (jobs.map (·.ticket))) ((jobs.map (·.ticket)).foldl lose h) dues := by
  induction jobs generalizing l h with
  | nil =>
    rw [List.map_nil, Ledger.drop, List.append_nil]
    exact hs
  | cons j jobs ih =>
    have hrest := ih (hs.lost hP)
    rwa [Ledger.drop_drop] at hrest

/-- A caller receives what waits first. -/
theorem Sees.received (hs : Sees P n l h dues) (m : Nat) :
    Sees P n (l.receive m (h.receiveEvent m).1) (h.receiveEvent m).2 dues := by
  have hfor := l.receivedFor_receive n m (h.receiveEvent m).1
  have hticket? : (h.receiveEvent m).2.ticket? n = _ :=
    ticket?_updateTicket h m n fun _ => rfl
  by_cases hmn : m = n
  · subst hmn
    rw [if_pos rfl] at hfor
    cases hs with
    | unissued hnew hnone hdues hreceived hdropped =>
      rw [hnone] at hticket?
      refine .unissued hnew hticket? hdues ?_ hdropped
      rw [hfor, hreceived, receiveEvent, hnone]
      rfl
    | @issued t p hold hticket hdues hfits hdropped hstate =>
      rw [hticket, Option.map_some, if_pos rfl] at hticket?
      refine .issued hold hticket? hdues hfits hdropped ?_
      rw [hfor, receiveEvent, hticket]
      obtain ⟨number, events, completion⟩ := t
      cases events with
      | nil => simpa using hstate
      | cons event events => exact hP (.received ..) hstate
  · have hother : (h.receiveEvent m).2.ticket? n = h.ticket? n :=
      ticket?_updateTicket_of_ne h (fun _ => rfl) (Ne.symm hmn)
    rw [if_neg hmn, List.append_nil] at hfor
    cases hs with
    | unissued hnew hnone hdues hreceived hdropped =>
      exact .unissued hnew (hother.trans hnone) hdues (hfor.trans hreceived) hdropped
    | issued hold hticket hdues hfits hdropped hstate =>
      exact .issued hold (hother.trans hticket) hdues hfits hdropped (hfor.symm ▸ hstate)

end Steps

/-- A caller makes a job, and there is a channel more. -/
theorem Sees.made {events : List Object} (hs : Sees P n l h dues) (job : Job D)
    (hfresh : h.issued = n → P (.fresh events)) :
    Sees P n (l.make job) (h.ticketFor job).2 ((h.issued, .queued events) :: dues) := by
  cases hs with
  | unissued hnew hnone hdues hreceived hdropped =>
    rcases Nat.eq_or_lt_of_le hnew with rfl | hlater
    · have hticket : (h.ticketFor job).2.ticket? h.issued = some ⟨h.issued, [], .pending⟩ := by
        unfold ticket? at hnone
        simp [ticketFor, ticket?, List.find?_append, hnone]
      refine .issued (p := .queued events) (Nat.lt_succ_self _) hticket ?_ rfl ?_ ?_
      · rw [duesFor_cons_self, hdues]
        rfl
      · exact ⟨nofun, fun hmem => absurd hmem hdropped⟩
      · rw [show (l.make job).receivedFor h.issued = [] from hreceived]
        exact hfresh rfl
    · have hne : n ≠ h.issued := Nat.ne_of_gt hlater
      exact .unissued hlater ((ticket?_ticketFor h job hne).trans hnone)
        ((duesFor_cons_of_ne hne.symm).trans hdues) hreceived hdropped
  | issued hold hticket hdues hfits hdropped hstate =>
    have hne : n ≠ h.issued := Nat.ne_of_lt hold
    exact .issued (Nat.lt_succ_of_lt hold) ((ticket?_ticketFor h job hne).trans hticket)
      ((duesFor_cons_of_ne hne.symm).trans hdues) hfits hdropped hstate

end Host
end CommandEngine
