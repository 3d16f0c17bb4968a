import CommandEngine.Host.Settle

/-!
# The tickets of a host

A ticket says how its job stands, and it has the events that its caller did not receive yet.  What
callers are told of a job depends on the former alone (`Host.completions`), and few operations touch
that: making a job, losing one, and playing a job back to its end.
-/
namespace CommandEngine

/-! ## What a caller can tell -/

namespace Ticket

theorem isSome_report?_iff {t : Ticket} : t.report?.isSome = true ↔ t.completion ≠ .pending := by
  unfold report? Completion.answer?
  cases t.completion <;> simp

/-- The stream of a caller ends when the report is there and no event is left. -/
theorem isClosed_iff {t : Ticket} :
    t.isClosed = true ↔ t.report?.isSome = true ∧ t.events = [] := by
  rw [isSome_report?_iff, isClosed, Bool.and_eq_true, List.isEmpty_iff, bne_iff_ne, and_comm]

end Ticket

namespace Host

variable {D : Type}

/-- How the tickets of a host stand. -/
def completions (h : Host D) : List (Nat × Completion) :=
  h.tickets.map fun t => (t.number, t.completion)

theorem completions_complete (h : Host D) (ticket : Nat) (completion : Completion) :
    (h.complete ticket completion).completions =
      h.completions.map fun t => if t.1 = ticket then (t.1, completion) else t := by
  unfold completions complete updateTicket
  rw [List.map_map, List.map_map]
  refine List.map_congr_left fun t _ => ?_
  dsimp only [Function.comp]
  split <;> rfl

/-- A change of the events of a ticket. -/
theorem completions_updateTicket (h : Host D) (ticket : Nat) {f : Ticket → Ticket}
    (hf : ∀ t, (f t).number = t.number ∧ (f t).completion = t.completion) :
    (h.updateTicket ticket f).completions = h.completions := by
  unfold completions updateTicket
  rw [List.map_map]
  refine List.map_congr_left fun t _ => ?_
  obtain ⟨hnumber, hcompletion⟩ := hf t
  dsimp only [Function.comp]
  split
  · rw [hnumber, hcompletion]
  · rfl

/-- How playing back a part of a history ends.  It comes to its end, and the ticket is completed, or
it stops, and no ticket is completed: then the runner has the rest in hand, if it is one of the
host's, or there is nothing left and the job never ends. -/
inductive PlayedBack (h : Host D) (id ticket : Nat) (completion : Completion)
    (history : List Happening) : Host D × Option Nat → Prop
  | ended {h' : Host D} {left : Nat}
      (hcompleted : h'.completions = (h.complete ticket completion).completions) :
      PlayedBack h id ticket completion history (h', some left)
  | stopped {h' : Host D} {work : Work} {phase : Phase}
      (hcompletions : h'.completions = h.completions)
      (hrunners : h'.runners = (h.setPhase id phase).runners)
      (hphase : phase = .granted work ∨ ∃ gate, phase = .waiting gate work)
      (hticket : work.ticket = ticket) (hends : work.completion = completion)
      (hrest : work.rest <:+ history) :
      PlayedBack h id ticket completion history (h', none)
  | endless {h' : Host D} (hcompletions : h'.completions = h.completions)
      (hrunners : h'.runners = (h.setPhase id (.endless ticket)).runners)
      (hends : completion = .pending) :
      PlayedBack h id ticket completion history (h', none)

/-- Another host with the same runners and the same completions, and what comes before. -/
theorem PlayedBack.of_same {h g : Host D} {id ticket : Nat} {completion : Completion}
    {history rest : List Happening} {x : Host D × Option Nat}
    (hplayed : PlayedBack g id ticket completion rest x)
    (hcompletions : g.completions = h.completions) (hrunners : g.runners = h.runners)
    (hrest : rest <:+ history) : PlayedBack h id ticket completion history x := by
  have hphase (phase : Phase) : (g.setPhase id phase).runners = (h.setPhase id phase).runners := by
    unfold setPhase
    rw [hrunners]
  cases hplayed with
  | ended hcompleted =>
    refine .ended (hcompleted.trans ?_)
    rw [completions_complete, completions_complete, hcompletions]
  | stopped hkept hsame hholds hticket hends hlater =>
    exact .stopped (hkept.trans hcompletions) (hsame.trans (hphase _)) hholds hticket hends
      (hlater.trans hrest)
  | endless hkept hsame hends =>
    exact .endless (hkept.trans hcompletions) (hsame.trans (hphase _)) hends

/-- **A ticket is completed when the history was played back to its end**, and none before. -/
theorem playedBack_play (h : Host D) (id ticket : Nat) (completion : Completion)
    (history : List Happening) (budget : Nat) :
    PlayedBack h id ticket completion history (h.play id ticket completion history budget) := by
  induction history generalizing h budget with
  | nil =>
    unfold play
    split
    · rename_i hpending
      exact .endless rfl rfl hpending
    · exact .ended rfl
  | cons entry rest ih =>
    have hlater : rest <:+ entry :: rest := List.suffix_cons entry rest
    cases entry with
    | log | mark => exact (ih _ _).of_same rfl rfl hlater
    | streamed event =>
      exact (ih _ _).of_same (completions_updateTicket h ticket fun _ => ⟨rfl, rfl⟩) rfl hlater
    | sign s =>
      cases s with
      | note | recorded => exact (ih _ _).of_same rfl rfl hlater
      | wait name =>
        unfold play
        dsimp only
        split
        · cases budget with
          | zero => exact .stopped rfl rfl (.inl rfl) rfl rfl hlater
          | succ budget => exact (ih _ _).of_same rfl rfl hlater
        · exact .stopped rfl rfl (.inr ⟨name, rfl⟩) rfl rfl hlater

/-! ## Tickets one by one -/

theorem ticket?_updateTicket (h : Host D) (ticket number : Nat) {f : Ticket → Ticket}
    (hf : ∀ t, (f t).number = t.number) : (h.updateTicket ticket f).ticket? number =
      (h.ticket? number).map fun t => if number = ticket then f t else t := by
  unfold updateTicket ticket?
  rw [List.find?_map]
  have hsame : ((fun t : Ticket => t.number == number) ∘
      fun t => if t.number = ticket then f t else t) = fun t => t.number == number := by
    funext t
    dsimp only [Function.comp]
    split
    · rw [hf]
    · rfl
  rw [hsame]
  cases hfound : h.tickets.find? (·.number == number) with
  | none => rfl
  | some t =>
    have hnumber : t.number = number := by simpa using List.find?_some hfound
    rw [Option.map_some, Option.map_some, hnumber]

/-- A change of one ticket leaves the others as they are. -/
theorem ticket?_updateTicket_of_ne (h : Host D) {ticket number : Nat} {f : Ticket → Ticket}
    (hf : ∀ t, (f t).number = t.number) (hother : number ≠ ticket) :
    (h.updateTicket ticket f).ticket? number = h.ticket? number := by
  rw [ticket?_updateTicket h ticket number hf, funext fun t => if_neg hother, Option.map_id_fun']
  rfl

/-- The callers of other jobs are told what they were told before. -/
theorem ticket?_lose (h : Host D) {number ticket : Nat} (hother : number ≠ ticket) :
    (h.lose ticket).ticket? number = h.ticket? number :=
  ticket?_updateTicket_of_ne h (fun _ => rfl) hother

theorem ticket?_ticketFor (h : Host D) (job : Job D) {number : Nat} (hother : number ≠ h.issued) :
    (h.ticketFor job).2.ticket? number = h.ticket? number := by
  have hnew : [(⟨h.issued, [], .pending⟩ : Ticket)].find? (·.number == number) = none :=
    List.find?_cons_of_neg (Bool.eq_false_iff.mp (beq_eq_false_iff_ne.mpr hother.symm))
  unfold ticketFor ticket?
  rw [List.find?_append, hnew, Option.or_none]

end Host
end CommandEngine
