import CommandEngine.Host.Basic

/-! # Letting the runners work

`settle` lets the runners and watchers move, one at a time and in the order in which they became
able to, until none of them can.  A runner that moves takes messages and plays back jobs until it
has to wait, has used up its budget, or exits.  The runners that used up their budget rest until the
round is over, then they line up again with a new one.

The budget pays for what a runner takes: its turn at the queue, a message, a permit.  A runner that
has nothing left takes no message.  Its turn or a permit it takes all the same, so nobody comes
between, and pays when it moves again.  Asking in vain costs nothing.

All loops are bounded.  A runner goes on only if it has paid for something, so its budget bounds its
rounds.  A message makes at most two runners able to move, the next in turn and the one that a grow
order starts, besides all watchers, and a runner uses up its budget only by taking messages and
permits.
-/
namespace CommandEngine
namespace Host

variable {D : Type}

/-- What a runner may take in one move. -/
def moveBudget : Nat := 128

/-- The moves of a round, if there is someone to move so often. -/
def roundMoves : Nat := 61

/-- Plays back what is left of a job as far as the budget goes.  Tells what is left of the budget if
the job came to its end.  A job that is pending after all its history never ends, and its runner
stays with it. -/
def play (h : Host D) (id ticket : Nat) (completion : Completion) :
    List Happening → (budget : Nat) → Host D × Option Nat
  | [], budget =>
    if completion = .pending then (h.setPhase id (.endless ticket), none)
    else (h.complete ticket completion, some budget)
  | .sign (.wait name) :: rest, budget =>
    let g := h.gate name
    if g.permits > 0 then
      let h := h.setGate { g with permits := g.permits - 1 }
      match budget with
      | 0 => (h.rest id (.granted ⟨ticket, rest, completion⟩), none)
      | budget + 1 => h.play id ticket completion rest budget
    else
      ((h.setGate { g with waiters := g.waiters ++ [id] }).setPhase id
        (.waiting name ⟨ticket, rest, completion⟩), none)
  | .streamed event :: rest, budget =>
    (h.updateTicket ticket fun t => { t with events := t.events ++ [event] }).play id ticket
      completion rest budget
  | entry :: rest, budget =>
    ({ h with observed := h.observed.happen entry } : Host D).play id ticket completion rest budget

/-- Takes a job in hand. -/
def process (h : Host D) (id : Nat) (j : TicketedJob D) (budget : Nat) : Host D × Option Nat :=
  let processed := (j.job.process h.registry h.party).run
  h.play id j.ticket (.ofRun processed.value) processed.history budget

/-- Follows a message.  Tells what is left of the budget if the runner goes on to the next one. -/
def follow (h : Host D) (id : Nat) (m : Message (TicketedJob D)) (budget : Nat) :
    Host D × Option Nat :=
  match m with
  | .job j => h.process id j budget
  | .grow =>
    let pool := h.pool.grow
    let grown := { h with pool }.log (h.pool.convergenceRecords pool)
    (if h.pool.started < pool.started then (grown.addRunner pool.started).notify else grown,
      some budget)
  | .poison =>
    let (exits, pool) := h.pool.poison
    let h := { h with pool }.log (h.pool.convergenceRecords pool)
    if exits then ((h.removeRunner id).notify, none) else (h, some budget)

/-- A runner goes from message to message, at most `rounds` rounds: it asks for the turn, takes a
message, hands the turn on and follows the message. -/
def workWithin (h : Host D) (id : Nat) : (rounds budget : Nat) → Host D
  | 0, _ => h
  | rounds + 1, budget =>
    match h.turn, budget with
    | none, 0 => { h with turn := some id }.rest id .queueing
    | none, budget + 1 => { h with turn := some id }.workWithin id rounds budget
    | some holder, budget =>
      if holder = id then
        match budget with
        | 0 => h.rest id .receiving
        | budget + 1 =>
          match h.pool.dequeue with
          | none => h.setPhase id .receiving
          | some (m, pool) =>
            match (passTurn { h with pool }).follow id m budget with
            | (h, some left) => h.workWithin id rounds left
            | (h, none) => h
      else { h with askers := h.askers ++ [id] }.setPhase id .queueing

/-- A runner goes from message to message as far as the budget goes. -/
def work (h : Host D) (id budget : Nat) : Host D := h.workWithin id (budget + 1) budget

/-- Plays back what is left of the job in hand, and works on if that comes to its end. -/
def resume (h : Host D) (id : Nat) (w : Work) (budget : Nat) : Host D :=
  match h.play id w.ticket w.completion w.rest budget with
  | (h, some left) => h.work id left
  | (h, none) => h

/-- Lets a runner move until it has to wait, has used up its budget, or exits.  It pays for the turn
or the permit that it was given before. -/
def moveRunner (h : Host D) (id : Nat) : Host D :=
  match h.phase? id with
  | none => h
  | some .starting => h.work id moveBudget
  | some .queueing => if h.turn = some id then h.work id (moveBudget - 1) else h
  | some .receiving => if h.turn = some id then h.work id moveBudget else h
  | some (.waiting _ _) => h
  | some (.granted w) => h.resume id w (moveBudget - 1)
  | some (.endless _) => h

/-- Lets someone move.  A watcher leaves when no runner is left. -/
def move (h : Host D) : Mover → Host D
  | .runner id => h.moveRunner id
  | .watcher number =>
    if h.pool.status.runnerCount = 0 then h else { h with watchers := h.watchers ++ [number] }

/-- Lets everyone move until nobody can, in at most `steps` steps, of which `left` are moves of the
round that has begun.  Who rests lines up when nobody else can move or the round is over. -/
def settleWithin (h : Host D) : (steps left : Nat) → Host D
  | 0, _ => h
  | steps + 1, left =>
    match h.ready, left with
    | [], _ => if h.resting.isEmpty then h else h.lineUp.settleWithin steps roundMoves
    | _ :: _, 0 => h.lineUp.settleWithin steps roundMoves
    | m :: rest, left + 1 => ({ h with ready := rest }.move m).settleWithin steps left

/-- The permits that nobody took. -/
def permits (h : Host D) : Nat := h.gates.foldl (fun n g => n + g.permits) 0

/-- Enough steps to come to rest.  Everyone in the lines moves once, each message makes two runners
and all watchers able to move, and each message or permit lets at most one runner use up its budget;
beside the moves, one step begins each round. -/
def steps (h : Host D) : Nat :=
  let queued := h.pool.queue.length
  2 * (h.ready.length + h.resting.length + (h.watchers.length + h.ready.length) * queued) +
    7 * (queued + h.permits) + 1

/-- Lets everyone move until nobody can. -/
def settle (h : Host D) : Host D := h.settleWithin h.steps roundMoves

end Host
end CommandEngine
