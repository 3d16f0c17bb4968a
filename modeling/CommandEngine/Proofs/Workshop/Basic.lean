import CommandEngine.Host.Basic
import CommandEngine.Proofs.Crew.Basic

/-!
# Crews at work on jobs

A crew does not know what its jobs are.  In a `Workshop` they are jobs of callers: each has a
ticket, a runner that follows a job processes it (`Job.process`), whatever becomes of it there, and
the ticket says how the job stands.  A job that was made belongs to its caller, who may submit it
once or drop it; once submitted it belongs to the pool, or it is dropped because the pool refuses
it.  So there is no move that submits a job twice.

What a job's own code asks of the pool while it runs is a move like any other, made while the job is
in a hand.  A job that never ends is never followed to its end; its runner keeps it.  When the pool
has shut down and its last runner is gone, whatever held the pool may go, and the queue with it
(`Move.release`).

As in a crew, nobody who moves is named: every list of moves that `Workshop.run` accepts is an
interleaving.  The pool and the hands of a workshop are those of a crew (`Workshop.exists_crew`), so
what is true of all crews is true here.
-/
namespace CommandEngine

/-- A crew at work on jobs, and how the jobs of its callers stand. -/
structure Workshop (D : Type) where
  registry : Registry D
  party : String
  crew : Crew (TicketedJob D)
  /-- Every ticket that was issued, with its number and how its job stands. -/
  tickets : List (Nat × Completion)
  /-- The jobs that their callers have in hand. -/
  made : List (TicketedJob D)
  /-- The jobs that were submitted and not accepted. -/
  refused : List (TicketedJob D)
  /-- The jobs that their callers dropped. -/
  discarded : List (TicketedJob D)
  /-- How many runners exited. -/
  exited : Nat
  /-- Nothing holds the pool any more, and its queue is gone. -/
  released : Bool

namespace Workshop

/-- A call from outside, or a step of the runner whose hand is at a place. -/
inductive Move (D : Type) where
  | make (job : Job D)
  /-- The job at a place among those that were made is submitted. -/
  | submit (i : Nat)
  /-- The job at a place among those that were made is dropped. -/
  | discard (i : Nat)
  | setRunnerCount (n : Nat)
  | beginShutdown
  | take (i : Nat)
  | follow (i : Nat)
  /-- Everything that holds the pool goes. -/
  | release

variable {D : Type}

/-! ## Tickets -/

/-- Writes how the job of a ticket stands. -/
def write (number : Nat) (x : Completion) (tickets : List (Nat × Completion)) :
    List (Nat × Completion) :=
  tickets.map fun t => if t.1 = number then (t.1, x) else t

/-- Writes that jobs are lost. -/
def writeLost (jobs : List (TicketedJob D)) (tickets : List (Nat × Completion)) :
    List (Nat × Completion) :=
  jobs.foldl (fun tickets j => write j.ticket .lost tickets) tickets

/-- What the processing of a job gives: nothing if it never ends, otherwise the report or its
loss. -/
def processed (w : Workshop D) (j : TicketedJob D) : Option (Option ExecutedCommand) :=
  (j.job.process w.registry w.party).run.value

/-- How a job stands once its processing is over. -/
def ending (w : Workshop D) (j : TicketedJob D) : Completion := .ofRun (w.processed j)

/-- What the caller with a ticket is told who asks for the report. -/
def answer? (w : Workshop D) (number : Nat) : Option (Except EngineError ExecutedCommand) :=
  (w.tickets[number]?).bind fun t => t.2.answer?

/-! ## Moves -/

/-- A new workshop: every runner waits at the queue, and no job was made. -/
def start (registry : Registry D) (config : HostConfig) : Except ConfigError (Workshop D) := do
  let crew ← Crew.start config
  return {
    registry
    party := config.party
    crew
    tickets := []
    made := []
    refused := []
    discarded := []
    exited := 0
    released := false }

/-- Makes a job. -/
def make (w : Workshop D) (job : Job D) : Workshop D :=
  { w with
    tickets := w.tickets ++ [(w.tickets.length, .pending)]
    made := w.made ++ [⟨w.tickets.length, job⟩] }

/-- Submits a job.  A refused job is dropped. -/
def submit (w : Workshop D) (j : TicketedJob D) : Workshop D :=
  match w.crew.pool.submit j with
  | .ok pool => { w with crew := { w.crew with pool, accepted := w.crew.accepted ++ [j] } }
  | .error _ => { w with
      refused := w.refused ++ [j]
      tickets := write j.ticket .lost w.tickets }

/-- The runner at a place follows a message to the end, if it has one. -/
def follow (w : Workshop D) (i : Nat) : Message (TicketedJob D) → Option (Workshop D)
  | .job j =>
    match w.processed j with
    | none => none
    | some report => some { w with
        crew := w.crew.follow i (.job j)
        tickets := write j.ticket (.ofRun (some report)) w.tickets }
  | .grow => some { w with crew := w.crew.follow i .grow }
  | .poison => some { w with
      crew := w.crew.follow i .poison
      exited := w.exited + w.crew.pool.poison.1.toNat }

/-- Makes a move of the crew that is no job's business. -/
def direct (w : Workshop D) (m : CommandEngine.Move (TicketedJob D)) : Option (Workshop D) :=
  (w.crew.step m).map fun crew => { w with crew }

/-- Makes a move. -/
def step (w : Workshop D) : Move D → Option (Workshop D)
  | .make job => some (w.make job)
  | .submit i => (w.made[i]?).map fun j => { w with made := w.made.eraseIdx i }.submit j
  | .discard i => (w.made[i]?).map fun j => { w with
      made := w.made.eraseIdx i
      discarded := w.discarded ++ [j]
      tickets := write j.ticket .lost w.tickets }
  | .setRunnerCount n => w.direct (.setRunnerCount n)
  | .beginShutdown => w.direct .beginShutdown
  | .take i => w.direct (.take i)
  | .follow i =>
    match w.crew.hands[i]? with
    | some (some m) => w.follow i m
    | _ => none
  | .release =>
    if w.crew.pool.shuttingDown = true ∧ w.crew.hands = [] ∧ w.released = false then
      some { w with tickets := writeLost w.crew.pool.queuedJobs w.tickets, released := true }
    else none

/-- Makes moves one after the other. -/
def run (w : Workshop D) (moves : List (Move D)) : Option (Workshop D) := moves.foldlM step w

/-! ## The steps of a workshop, by what they do -/

/-- **What one move can do.**  `l` and `r` are the jobs, or hands, to the left and to the right of
the one that is moved. -/
inductive Step : Workshop D → Workshop D → Prop
  | made (w : Workshop D) (job : Job D) : Step w (w.make job)
  | accepted {w : Workshop D} {l r : List (TicketedJob D)} {j : TicketedJob D}
      {pool : Pool (TicketedJob D)} (hmade : w.made = l ++ j :: r)
      (haccept : w.crew.pool.submit j = .ok pool) :
      Step w { w with
        crew := { w.crew with pool, accepted := w.crew.accepted ++ [j] }
        made := l ++ r }
  | refused {w : Workshop D} {l r : List (TicketedJob D)} {j : TicketedJob D} {e : EngineError}
      (hmade : w.made = l ++ j :: r) (hrefuse : w.crew.pool.submit j = .error e) :
      Step w { w with
        made := l ++ r
        refused := w.refused ++ [j]
        tickets := write j.ticket .lost w.tickets }
  | discarded {w : Workshop D} {l r : List (TicketedJob D)} {j : TicketedJob D}
      (hmade : w.made = l ++ j :: r) :
      Step w { w with
        made := l ++ r
        discarded := w.discarded ++ [j]
        tickets := write j.ticket .lost w.tickets }
  /-- The pool and the hands move on, and no job is accepted or finished. -/
  | moved {w : Workshop D} {crew : Crew (TicketedJob D)} {exits : Bool}
      (hs : Crew.Step w.crew crew) (haccepted : crew.accepted = w.crew.accepted)
      (hfinished : crew.finished = w.crew.finished)
      (hexited : crew.pool.runnerCount + exits.toNat + w.crew.pool.started =
        w.crew.pool.runnerCount + crew.pool.started) :
      Step w { w with crew, exited := w.exited + exits.toNat }
  | finished {w : Workshop D} {l r : List (Option (Message (TicketedJob D)))}
      {j : TicketedJob D} {report : Option ExecutedCommand}
      (hhand : w.crew.hands = l ++ some (.job j) :: r) (hended : w.processed j = some report) :
      Step w { w with
        crew := { w.crew with hands := l ++ none :: r, finished := w.crew.finished ++ [j] }
        tickets := write j.ticket (.ofRun (some report)) w.tickets }
  | released {w : Workshop D} (hshut : w.crew.pool.shuttingDown = true)
      (hgone : w.crew.hands = []) (hheld : w.released = false) :
      Step w { w with
        tickets := writeLost w.crew.pool.queuedJobs w.tickets
        released := true }

/-- A move after which nobody is gone. -/
theorem Step.stayed {w : Workshop D} {crew : Crew (TicketedJob D)} (hs : Crew.Step w.crew crew)
    (haccepted : crew.accepted = w.crew.accepted) (hfinished : crew.finished = w.crew.finished)
    (hcount : crew.pool.runnerCount + w.crew.pool.started =
      w.crew.pool.runnerCount + crew.pool.started) : Step w { w with crew } :=
  @Step.moved D w crew false hs haccepted hfinished hcount

theorem Step.of_follow {w w' : Workshop D} {i : Nat} {m : Message (TicketedJob D)}
    (hhand : w.crew.hands[i]? = some (some m)) (h : w.follow i m = some w') : Step w w' := by
  have hcrew : Crew.Step w.crew (w.crew.follow i m) := .of_follow hhand
  cases m with
  | job j =>
    obtain ⟨l, r, hsplit, hset, -⟩ := Crew.exists_split hhand
    simp only [follow] at h
    split at h
    · cases h
    · rename_i report hended
      simp only [Crew.follow, hset] at h
      exact Option.some.inj h ▸ .finished hsplit hended
  | grow =>
    refine Option.some.inj h ▸ .stayed hcrew rfl rfl ?_
    show w.crew.pool.grow.runnerCount + _ = _ + w.crew.pool.grow.started
    rcases Nat.lt_or_ge w.crew.pool.runnerCount w.crew.pool.plannedCount with hbelow | henough
    · obtain ⟨hcount, -, -, hstarted, -⟩ := Pool.grow_of_lt hbelow
      omega
    · rw [Pool.grow_of_le henough]
  | poison =>
    refine Option.some.inj h ▸ .moved hcrew rfl rfl ?_
    show w.crew.pool.poison.2.runnerCount + _ + _ = _ + w.crew.pool.poison.2.started
    rw [Pool.poison_started]
    rcases Nat.lt_or_ge w.crew.pool.plannedCount w.crew.pool.runnerCount with habove | henough
    · obtain ⟨hexits, hcount, -⟩ := Pool.poison_of_lt habove
      rw [hexits, hcount, Bool.toNat_true]
      omega
    · rw [Pool.poison_of_le henough]
      rfl

/-- The moves that are no job's business neither start a runner nor end one. -/
theorem Step.of_direct {w w' : Workshop D} {m : CommandEngine.Move (TicketedJob D)}
    (h : w.direct m = some w')
    (hkept : ∀ {crew}, w.crew.step m = some crew → crew.accepted = w.crew.accepted ∧
      crew.finished = w.crew.finished ∧ crew.pool.runnerCount = w.crew.pool.runnerCount ∧
      crew.pool.started = w.crew.pool.started) : Step w w' := by
  obtain ⟨crew, hs, rfl⟩ := Option.map_eq_some_iff.mp h
  obtain ⟨haccepted, hfinished, hcount, hstarted⟩ := hkept hs
  refine .stayed (.of_step hs) haccepted hfinished ?_
  rw [hcount, hstarted]

theorem Step.of_step {w w' : Workshop D} {m : Move D} (h : w.step m = some w') : Step w w' := by
  cases m with
  | make job => exact Option.some.inj h ▸ .made w job
  | submit i =>
    obtain ⟨j, hj, rfl⟩ := Option.map_eq_some_iff.mp h
    obtain ⟨l, r, hmade, -, herase⟩ := Crew.exists_split hj
    simp only [submit, herase]
    split
    · rename_i pool haccept
      exact .accepted hmade haccept
    · rename_i e hrefuse
      exact .refused hmade hrefuse
  | discard i =>
    obtain ⟨j, hj, rfl⟩ := Option.map_eq_some_iff.mp h
    obtain ⟨l, r, hmade, -, herase⟩ := Crew.exists_split hj
    rw [herase]
    exact .discarded hmade
  | setRunnerCount n =>
    refine .of_direct h fun hs => ?_
    simp only [Crew.step] at hs
    split at hs <;> obtain rfl := Option.some.inj hs
    · rename_i pool hset
      exact ⟨rfl, rfl, (Pool.setRunnerCount_ok hset).2.2.2.1, Pool.setRunnerCount_started hset⟩
    · exact ⟨rfl, rfl, rfl, rfl⟩
  | beginShutdown =>
    refine .of_direct h fun hs => ?_
    obtain rfl := Option.some.inj hs
    exact ⟨rfl, rfl, Pool.beginShutdown_runnerCount, Pool.beginShutdown_started⟩
  | take i =>
    refine .of_direct h fun hs => ?_
    simp only [Crew.step] at hs
    split at hs
    · rename_i hnext
      obtain rfl := Option.some.inj hs
      rw [(Pool.dequeue_some hnext).2]
      exact ⟨rfl, rfl, rfl, rfl⟩
    · cases hs
  | follow i =>
    simp only [step] at h
    split at h
    · rename_i m hhand
      exact .of_follow hhand h
    · cases h
  | release =>
    simp only [step] at h
    split at h
    · rename_i hgone
      exact Option.some.inj h ▸ .released hgone.1 hgone.2.1 hgone.2.2
    · cases h

/-- What a step does to the crew is a step of the crew. -/
theorem Step.crew {w w' : Workshop D} (hs : Step w w') : Crew.Step w.crew w'.crew := by
  cases hs with
  | made | refused | discarded | released => exact .refused _
  | accepted _ haccept => exact .accepted haccept
  | moved hs => exact hs
  | finished hhand => exact .finished hhand

/-! ## Runs -/

theorem run_cons (w : Workshop D) (m : Move D) (moves : List (Move D)) :
    w.run (m :: moves) = (w.step m).bind (·.run moves) := List.foldlM_cons

theorem run_append (w : Workshop D) (before after : List (Move D)) :
    w.run (before ++ after) = (w.run before).bind (·.run after) := List.foldlM_append

/-- **What every step keeps, every run keeps.** -/
theorem run_keeps {P : Workshop D → Prop} (hkeep : ∀ {w w'}, Step w w' → P w → P w')
    {w w' : Workshop D} {moves : List (Move D)} (h : w.run moves = some w') (hw : P w) : P w' :=
  foldlM_keeps (fun hs => hkeep (.of_step hs)) h hw

/-- Some moves lead from one state of a workshop to the other. -/
def Reaches (w w' : Workshop D) : Prop := ∃ moves, w.run moves = some w'

theorem Reaches.refl (w : Workshop D) : w.Reaches w := ⟨[], rfl⟩

theorem Reaches.trans {w₁ w₂ w₃ : Workshop D} (h₁₂ : w₁.Reaches w₂) (h₂₃ : w₂.Reaches w₃) :
    w₁.Reaches w₃ := by
  obtain ⟨before, hbefore⟩ := h₁₂
  obtain ⟨after, hafter⟩ := h₂₃
  exact ⟨before ++ after, by rw [run_append, hbefore]; exact hafter⟩

theorem Reaches.of_step {w w' : Workshop D} {m : Move D} (h : w.step m = some w') :
    w.Reaches w' :=
  ⟨[m], by rw [run_cons, h]; rfl⟩

/-- A runner with an empty hand may take the next message. -/
theorem reaches_taken {w : Workshop D} {l r : List (Option (Message (TicketedJob D)))}
    {m : Message (TicketedJob D)} {pool : Pool (TicketedJob D)}
    (hhand : w.crew.hands = l ++ none :: r) (hnext : w.crew.pool.dequeue = some (m, pool)) :
    w.Reaches { w with crew := { w.crew with
      pool
      hands := l ++ some m :: r
      dequeued := w.crew.dequeued ++ m.job?.toList } } := by
  refine .of_step (m := .take l.length) ?_
  simp [step, direct, Crew.step, hhand, hnext]

/-- A runner with a message may follow it, if it is not a job that never ends. -/
theorem reaches_followed {w w' : Workshop D} {l r : List (Option (Message (TicketedJob D)))}
    {m : Message (TicketedJob D)} (hhand : w.crew.hands = l ++ some m :: r)
    (h : w.follow l.length m = some w') : w.Reaches w' := by
  refine .of_step (m := .follow l.length) ?_
  simp [step, hhand, h]

theorem start_ok {registry : Registry D} {config : HostConfig} {w : Workshop D}
    (h : start registry config = .ok w) : ∃ crew, Crew.start config = .ok crew ∧ w = {
      registry
      party := config.party
      crew
      tickets := []
      made := []
      refused := []
      discarded := []
      exited := 0
      released := false } := by
  unfold start at h
  cases hcrew : Crew.start (J := TicketedJob D) config with
  | error e => rw [hcrew] at h; cases h
  | ok crew => rw [hcrew] at h; exact ⟨crew, rfl, (Except.ok.inj h).symm⟩

/-! ## The crew of a workshop -/

theorem reaches_crew {w w' : Workshop D} {m : Move D} (h : w.step m = some w') :
    w.crew.Reaches w'.crew := by
  have hdirect : ∀ {m}, w.direct m = some w' → w.crew.Reaches w'.crew := by
    intro m h
    obtain ⟨crew, hs, rfl⟩ := Option.map_eq_some_iff.mp h
    exact .of_step hs
  cases m with
  | make job => exact Option.some.inj h ▸ .refl _
  | submit i =>
    obtain ⟨j, -, rfl⟩ := Option.map_eq_some_iff.mp h
    refine .of_step (m := .submit j) ?_
    simp only [submit, Crew.step]
    split <;> rename_i hsubmit <;> rw [hsubmit]
  | discard i =>
    obtain ⟨j, -, rfl⟩ := Option.map_eq_some_iff.mp h
    exact .refl _
  | setRunnerCount n => exact hdirect h
  | beginShutdown => exact hdirect h
  | take i => exact hdirect h
  | follow i =>
    simp only [step] at h
    split at h
    · rename_i m hhand
      have hcrew : w'.crew = w.crew.follow i m := by
        cases m with
        | job j =>
          simp only [follow] at h
          split at h
          · cases h
          · rw [← Option.some.inj h]
        | grow | poison => rw [← Option.some.inj h]
      exact .of_step (m := .follow i) (by simp only [Crew.step, hhand, hcrew])
    · cases h
  | release =>
    simp only [step] at h
    split at h
    · exact Option.some.inj h ▸ .refl _
    · cases h

/-- **A workshop's pool is run by a crew**: some run of a crew that was started with the same
configuration ends with the crew of the workshop. -/
theorem exists_crew {registry : Registry D} {config : HostConfig} {w₀ w : Workshop D}
    {moves : List (Move D)} (hstart : start registry config = .ok w₀)
    (hrun : w₀.run moves = some w) :
    ∃ c₀ crewMoves, Crew.start config = .ok c₀ ∧ c₀.run crewMoves = some w.crew := by
  obtain ⟨c₀, hcrew, rfl⟩ := start_ok hstart
  have hreach : c₀.Reaches w.crew :=
    foldlM_keeps (P := fun w : Workshop D => c₀.Reaches w.crew)
      (fun hs hreach => hreach.trans (reaches_crew hs)) hrun (.refl c₀)
  obtain ⟨crewMoves, hcrewMoves⟩ := hreach
  exact ⟨c₀, crewMoves, hcrew, hcrewMoves⟩

/-! ### A small workshop -/

namespace Small

/-- Two runners at most, and one at first. -/
def config : HostConfig := ⟨1, "local", 2⟩

/-- One command, which does nothing. -/
def registry : Registry Unit :=
  .of [⟨0, ⟨"order", "order"⟩, .command, none,
    some (⟨"Clerk", "handle", ⟨"order", "order"⟩, .unit, false⟩, .pooled fun _ _ => pure .void),
    [], [], [], [], true⟩]

theorem exists_start : ∃ w₀, start registry config = .ok w₀ := ⟨_, rfl⟩

/-- A job for the command. -/
def job (report : Option (ExecutedCommand → Notice)) : Job Unit :=
  ⟨⟨.fresh ⟨⟨"order", "order"⟩, false, 0, ""⟩, .absent⟩, .empty, .ofFactory fun _ => pure (), report⟩

end Small

end Workshop
end CommandEngine
