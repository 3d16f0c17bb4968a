import CommandEngine.Config
import CommandEngine.Job
import CommandEngine.Pool

/-! # Hosts

A host runs jobs on a pool of runners.  Its runners take turns: at any moment one of them moves,
and it moves until it has to wait.  A runner waits

* for its *turn* at the queue, which one runner has at a time and which is handed on in the order
  of asking,
* with the turn, for a message,
* or, in the middle of a job, for a permit of a *gate*.

Whoever ends a runner's wait puts it at the end of the line of those that can move.  A runner that
finds all it asks for does not keep the others from moving: what it takes in one move is limited by
a *budget*, and when that is used up it rests while the others move.  *Watchers*, who wait for the
end of a shutdown, stand in the same line: they are woken whenever the number of runners changes,
and have a look.  Between two calls of `settle` (in `CommandEngine.Host.Settle`) nobody moves, and
messages pile up.

What a job does is settled by the job alone (`Job.process`), so a runner that takes a job gets its
whole history and plays it back entry by entry, stopping where the history waits.

The caller of a job has a *ticket*: the stream of immediate events and the report.  Both end when
the job is done or lost.
-/
namespace CommandEngine

/-- How the job of a ticket stands. -/
inductive Completion where
  | pending
  | reported (executed : ExecutedCommand)
  /-- The job is gone, and there will be no report. -/
  | lost
  deriving DecidableEq, Inhabited

namespace Completion

/-- How a job stands that was run with this report: a report that a panic took away is lost, and a
run without a result never ends. -/
def ofRun : Option (Option ExecutedCommand) → Completion
  | some (some executed) => reported executed
  | some none => lost
  | none => pending

/-- The answer to a caller who asks for the report: none yet while the job is pending.  Only a
host that shuts down loses jobs, and that is what the caller of a lost job is told. -/
def answer? : Completion → Option (Except EngineError ExecutedCommand)
  | pending => none
  | reported executed => some (.ok executed)
  | lost => some (.error .hostShuttingDown)

end Completion

/-- The caller's end of a job. -/
structure Ticket where
  number : Nat
  /-- Immediate events that were not received yet. -/
  events : List Object
  completion : Completion
  deriving DecidableEq, Inhabited

namespace Ticket

/-- The answer to the caller who asks for the report. -/
def report? (t : Ticket) : Option (Except EngineError ExecutedCommand) := t.completion.answer?

/-- No event is left, and none will come.

The stream of a job has two senders: the sink of its chain has one, which is gone when the chain has
ended, and what reports on the job has the other, which goes with the report or with the job that is
dropped.  The senders are not part of the model.  As the last of them goes in the move in which the
completion is settled, the end of the stream is read off the completion. -/
def isClosed (t : Ticket) : Bool := t.events.isEmpty && t.completion != .pending

end Ticket

/-- A job with the number of its ticket. -/
structure TicketedJob (D : Type) where
  ticket : Nat
  job : Job D

/-- What is left to play back of a job. -/
structure Work where
  ticket : Nat
  rest : List Happening
  completion : Completion

/-- What a runner is doing. -/
inductive Phase where
  /-- Is about to ask for its turn at the queue. -/
  | starting
  /-- Asks for its turn at the queue, or has just been given it. -/
  | queueing
  /-- Has the turn and waits for a message. -/
  | receiving
  /-- Waits for a permit; what is left of its job comes after the wait. -/
  | waiting (gate : String) (work : Work)
  /-- Was given the permit that it asked for. -/
  | granted (work : Work)
  /-- Is in a job that never ends. -/
  | endless (ticket : Nat)

/-- A live runner. -/
structure Runner where
  id : Nat
  phase : Phase

/-- Who stands in the line of those that can move. -/
inductive Mover where
  | runner (id : Nat)
  | watcher (number : Nat)
  deriving DecidableEq, Inhabited

/-- A gate with the permits that nobody took and the runners that wait for one. -/
structure Gate where
  name : String
  permits : Nat
  waiters : List Nat
  deriving DecidableEq, Inhabited

/-- What can be seen from outside the host. -/
structure Observed where
  trace : List Json
  log : List LogEvent
  /-- Calls that recording executors noted down, with the recorder. -/
  calls : List (String × ExecutorCall)
  deriving DecidableEq, Inhabited

/-- A host and everything that moves in it. -/
structure Host (D : Type) where
  registry : Registry D
  party : String
  pool : Pool (TicketedJob D)
  runners : List Runner
  /-- The runner whose turn it is at the queue. -/
  turn : Option Nat
  /-- The runners that ask for the turn. -/
  askers : List Nat
  /-- Those that can move. -/
  ready : List Mover
  /-- The runners that rest because they used up their budget, the latest first. -/
  resting : List Nat
  /-- The watchers that had a look and wait for the number of runners to change. -/
  watchers : List Nat
  gates : List Gate
  tickets : List Ticket
  /-- How many tickets were ever issued. -/
  issued : Nat
  observed : Observed

namespace Observed

/-- Nothing was seen. -/
def empty : Observed := ⟨[], [], []⟩

/-- Adds records to the log. -/
def logAll (o : Observed) (events : List LogEvent) : Observed := { o with log := o.log ++ events }

/-- What a sign shows. -/
def see (o : Observed) : Sign → Observed
  | .note entry => { o with trace := o.trace ++ [entry] }
  | .recorded recorder call => { o with calls := o.calls ++ [(recorder, call)] }
  | .wait _ => o

/-- What an entry of a history shows. -/
def happen (o : Observed) : Happening → Observed
  | .sign s => o.see s
  | .log e => o.logAll [e]
  | .mark _ | .streamed _ => o

/-- What a history shows. -/
def happenAll (o : Observed) (history : List Happening) : Observed := history.foldl happen o

end Observed

namespace Host

variable {D : Type} (h : Host D)

/-! ## Small steps -/

/-- Makes records. -/
def log (events : List LogEvent) : Host D := { h with observed := h.observed.logAll events }

/-- Puts someone at the end of the line, unless he stands there already. -/
def wake (m : Mover) : Host D := if m ∈ h.ready then h else { h with ready := h.ready ++ [m] }

/-- Sets what a runner is doing. -/
def setPhase (id : Nat) (phase : Phase) : Host D :=
  { h with runners := h.runners.map fun r => if r.id = id then { r with phase } else r }

/-- A runner that used up its budget rests. -/
def rest (id : Nat) (phase : Phase) : Host D :=
  { h.setPhase id phase with resting := id :: h.resting }

/-- The runners that rest line up behind those that can move, the latest first. -/
def lineUp : Host D := (h.resting.map Mover.runner).foldl wake { h with resting := [] }

/-- The number of runners changed: the watchers line up to have a look. -/
def notify : Host D := (h.watchers.map Mover.watcher).foldl wake { h with watchers := [] }

/-- What a runner is doing, if it lives. -/
def phase? (id : Nat) : Option Phase := (h.runners.find? (·.id == id)).map (·.phase)

/-- A new runner, which can move. -/
def addRunner (id : Nat) : Host D :=
  wake { h with runners := h.runners ++ [⟨id, .starting⟩] } (.runner id)

/-- A runner exits. -/
def removeRunner (id : Nat) : Host D := { h with runners := h.runners.filter (·.id != id) }

/-- Hands the turn on to the runner that asked first. -/
def passTurn : Host D :=
  match h.askers with
  | [] => { h with turn := none }
  | id :: rest => wake { h with turn := some id, askers := rest } (.runner id)

/-- The pool changed while its queue got messages: the runner that waits for one can move. -/
def setPool (pool : Pool (TicketedJob D)) : Host D :=
  let h := { h with pool }
  match h.turn with
  | none => h
  | some id =>
    match h.phase? id with
    | some .receiving => if pool.queue.isEmpty then h else h.wake (.runner id)
    | _ => h

/-! ## Tickets -/

/-- Changes one ticket. -/
def updateTicket (number : Nat) (f : Ticket → Ticket) : Host D :=
  { h with tickets := h.tickets.map fun t => if t.number = number then f t else t }

/-- Issues a ticket for a job. -/
def ticketFor (job : Job D) : TicketedJob D × Host D :=
  (⟨h.issued, job⟩,
    { h with issued := h.issued + 1, tickets := h.tickets ++ [⟨h.issued, [], .pending⟩] })

/-- The ticket of a number. -/
def ticket? (number : Nat) : Option Ticket := h.tickets.find? (·.number == number)

/-- The caller of a job receives its next immediate event, if one is there. -/
def receiveEvent (number : Nat) : Option Object × Host D :=
  (((h.ticket? number).bind (·.events.head?)),
    h.updateTicket number fun t => { t with events := t.events.tail })

/-- Ends a ticket. -/
def complete (number : Nat) (completion : Completion) : Host D :=
  h.updateTicket number fun t => { t with completion }

/-- A job is dropped without being run. -/
def lose (number : Nat) : Host D := h.complete number .lost

/-! ## Calls from outside -/

/-- Starts a host. -/
def start (registry : Registry D) (config : HostConfig) (observed : Observed) :
    Except ConfigError (Host D) := do
  config.validate
  let h : Host D := {
    registry
    party := config.party
    pool := Pool.start config.maxRunnerCount config.runnerCount
    runners := []
    turn := none
    askers := []
    ready := []
    resting := []
    watchers := []
    gates := []
    tickets := []
    issued := 0
    observed := observed.logAll [.hostStarted config.runnerCount config.party] }
  return (List.range config.runnerCount).foldl (fun h i => h.addRunner (i + 1)) h

/-- Changes the planned number of runners. -/
def setRunnerCount (n : Nat) : Except EngineError Unit × Host D :=
  let h := h.log (h.pool.changeRecords n)
  match h.pool.setRunnerCount n with
  | .ok pool => (.ok (), h.setPool pool)
  | .error e => (.error e, h)

/-- Submits a job that has a ticket.  A refused job is dropped. -/
def submit (j : TicketedJob D) : Except EngineError Unit × Host D :=
  match h.pool.submit j with
  | .ok pool => (.ok (), h.setPool pool)
  | .error e => (.error e, (h.log [.jobRejected j.job.info.token]).lose j.ticket)

/-- Begins the shutdown. -/
def beginShutdown : Host D := (h.log h.pool.shutdownRecords).setPool h.pool.beginShutdown

/-- Drops everything in the queue.  Its jobs are lost. -/
def dropQueue : Host D :=
  let lost := h.pool.queue.filterMap fun
    | .job j => some j.ticket
    | .grow | .poison => none
  lost.foldl lose { h with pool := { h.pool with queue := [] } }

/-- What becomes of a command that is received from outside the process. -/
inductive Receipt where
  | rejected (result : ValidationResult)
  | accepted (ticket : Nat)
  deriving DecidableEq, Inhabited

/-- The scope data with the caller's ambient values, unless it has some already. -/
def capture (services : D) (data : ScopeData) : Account (Outcome ScopeData) := do
  match data.ambient, h.registry.provider with
  | none, some provider =>
    match ← Account.act (provider services) with
    | .ok values => return .ok { data with ambient := some values }
    | .error (.failure f) =>
      return .error (EngineError.scopeCreation ("capturing ambient values: " ++ f.text) : Raise)
    | .error (.panic p) => return .error (.panic p)
  | _, _ => return .ok data

/-- Receives a command from outside the process: validates it, captures the caller's ambient
values and submits a job. -/
def receive (executor : Executor D) (services : D) (command : Object) (data : ScopeData)
    (token : Token) : Outcome Receipt × Host D :=
  let validated := Validation.incoming h.registry services token command
  let h := { h with observed := h.observed.happenAll validated.history }
  if validated.value.success then
    let captured := h.capture services data
    let h := { h with observed := h.observed.happenAll captured.history }
    match captured.value with
    | .error e => (.error e, h)
    | .ok data =>
      let (j, h) := h.ticketFor ⟨⟨command, token⟩, data, executor, none⟩
      match h.submit j with
      | (.ok (), h) => (.ok (.accepted j.ticket), h)
      | (.error e, h) => (.error (.failure e), h)
  else (.ok (.rejected validated.value), h)

/-! ## Gates -/

/-- The gate of a name; one that nobody used yet is closed. -/
def gate (name : String) : Gate := (h.gates.find? (·.name == name)).getD ⟨name, 0, []⟩

/-- Puts a gate in place of the one of its name. -/
def setGate (g : Gate) : Host D :=
  { h with gates := g :: h.gates.filter (·.name != g.name) }

/-- Adds one permit to a gate: the runner that waits longest gets it, or it is kept. -/
def openGate (name : String) : Host D :=
  let g := h.gate name
  match g.waiters with
  | [] => h.setGate { g with permits := g.permits + 1 }
  | id :: rest =>
    let h := h.setGate { g with waiters := rest }
    match h.phase? id with
    | some (.waiting _ work) => (h.setPhase id (.granted work)).wake (.runner id)
    | _ => h

end Host
end CommandEngine
