import CommandEngine.Validation

/-! # Call chains

A chain executes one root command.  Every command in execution has a frame on the stack; the
root's is the first.  A frame holds the events that its command emitted and that wait: when a
nested command returns, its events join those of the calling frame, so in the end the root's frame
has the events of the whole chain in the order they were emitted.  A command that fails takes its
events with it, and a caller may keep a command's events for itself.

Where an emitted event goes depends on its kind:

* routed and immediate: to its event handlers at once, then to the immediate sink;
* caller-only and immediate: to the immediate sink;
* routed: it waits, and the handlers get it when the root command is done;
* caller-only: it waits, and the caller gets it with the result.

Failures and panics stop every operation they pass through.  A nested command that fails drops its
frame.  A panic leaves frames behind, which are dropped where it is contained: by the root of the
chain or by a safe dispatch.

Application code runs by `Program.interpret`, so each operation is written in terms of a function
that answers requests, and `perform` ties the knot: what `perform (n + 1)` does for a request may
run programs whose own requests are answered by `perform n`.  With `perform 0` the nesting is
exhausted and the run has no result; `nestingLimit` is far beyond any chain that a machine can
hold.
-/
namespace CommandEngine

/-- A computation that has no result when the nesting is exhausted. -/
abbrev Run (α : Type) := OptionT Account α

/-- A computation on the frames of a chain, the root's first. -/
abbrev OnStack (α : Type) := StateT (List Frame) Run α

/-- A computation on the frames that may fail or panic. -/
abbrev Chain (α : Type) := ExceptT Raise (StateT (List Frame) Run) α

/-- A receiver of immediate events.  It stands outside the chain: all it may leave marks of are
calls of hooks. -/
structure Sink where
  receive : Object → Account (Outcome Unit)
  outside : ∀ event m, .mark m ∈ (receive event).history → ∃ call, m = .hook call

/-- What stays the same during a chain. -/
structure Environment (D : Type) where
  registry : Registry D
  services : D
  token : Token
  party : String
  /-- Receives immediate events. -/
  sink : Option Sink

namespace Environment

/-- The party named where none is configured. -/
def localParty : String := "local"

/-- An environment without token and sink. -/
def of {D : Type} (registry : Registry D) (services : D) : Environment D :=
  ⟨registry, services, .absent, localParty, none⟩

end Environment

namespace Chain

/-! ## Frames -/

/-- Appends events to the frame on top. -/
def joinTop (events : List Object) (frames : List Frame) : List Frame :=
  frames.modify (frames.length - 1) fun f => { f with pending := f.pending ++ events }

/-- The events that wait on the root's frame. -/
def rootEvents (frames : List Frame) : List Object := (frames.head?.map (·.pending)).getD []

/-- The frames without the events that wait on the root's. -/
def emptyRoot (frames : List Frame) : List Frame :=
  frames.modify 0 fun f => { f with pending := [] }

/-- Opens a frame for a command. -/
def openFrame (command : Object) : OnStack Unit := do
  modify (· ++ [⟨command, []⟩])
  Account.mark (.opened command)

/-- Takes the events that wait on the root's frame. -/
def takeRootEvents : OnStack (List Object) := do
  let frames ← get
  set (emptyRoot frames)
  return rootEvents frames

/-! ## Operations -/

section Operations

/-- Ends in a given outcome. -/
def ofOutcome {α : Type} (outcome : Outcome α) : Chain α := ExceptT.mk (pure outcome)

/-- Runs an operation for its outcome, which does not stop the caller. -/
def attempt {α : Type} (x : Chain α) : Chain (Outcome α) := ExceptT.lift x.run

/-- Runs application code that sees nothing of the chain. -/
def act {α : Type} (a : Act α) : Chain α := do
  let outcome ← Account.act a
  ofOutcome outcome

variable {D : Type} (env : Environment D) (answer : (q : ContextRequest) → OnStack q.Reply)

/-- Runs application code of the chain. -/
def runProgram {α : Type} (p : ChainProgram α) : Chain α := ExceptT.mk (p.interpret answer)

/-- The descriptor of a registered object. -/
def require (o : Object) : Chain (Descriptor D) :=
  match env.registry.require o with
  | .ok d => return d
  | .error e => throw (.failure e)

/-- Runs event handlers one after the other. -/
def callEventHandlers (event : Object) : List (Slot D (EventHandler D) × Nat) → Chain Unit
  | [] => return ()
  | (slot, index) :: rest => do
    let handler ← act (slot.resolve env.services)
    Account.mark (.eventHandler event index)
    runProgram answer (handler env.services event)
    callEventHandlers event rest

/-- Dispatches an event to its handlers; the first failure stops it. -/
def dispatch (event : Object) : Chain Unit := do
  let d ← require env event
  unless d.kind.isEvent do
    throw (EngineError.kindMismatch d.type.name "event" d.kind : Raise)
  Account.mark (.dispatching event)
  callEventHandlers env answer event d.eventHandlers.zipIdx

/-- Dispatches an event and contains what goes wrong.  Tells whether every handler returned. -/
def dispatchSafe (event : Object) : OnStack Bool := do
  let depth := (← get).length
  match ← (dispatch env answer event).run with
  | .ok () => return true
  | .error (.failure f) =>
    Account.log (.dispatchFailed env.token event.type.name f)
    return false
  | .error (.panic p) =>
    modify (·.take depth)
    Account.mark (.cut depth)
    Account.log (.eventHandlerPanicked env.token event.type.name p)
    return false

/-- Gives an immediate event to the sink. -/
def notify (event : Object) : Chain Unit :=
  match env.sink with
  | none => return ()
  | some sink => do
    Account.mark (.sunk event)
    let outcome ← sink.receive event
    ofOutcome outcome

/-- Emits an event on behalf of the command on top. -/
def emit (event : Object) : Chain Unit := do
  match (← get).getLast? with
  | none => throw (EngineError.noChainToEmit : Raise)
  | some top =>
    let event := event.stamp top.command env.party
    let d ← require env event
    match d.kind with
    | .routedImmediateEvent =>
      if d.isHandled then dispatch env answer event
      notify env event
    | .callerOnlyImmediateEvent => notify env event
    | .routedEvent | .callerOnlyEvent =>
      modify (joinTop [event])
      Account.mark (.queued event)
    | .command | .commandWithResult =>
      throw (EngineError.kindMismatch d.type.name "event" d.kind : Raise)

/-- Runs post-handlers one after the other. -/
def callPostHandlers (command : Object) (result : CommandResult) :
    List (Slot D (PostHandler D) × Nat) → Chain Unit
  | [] => return ()
  | (slot, index) :: rest => do
    let post ← act (slot.resolve env.services)
    Account.mark (.postHandler command index result)
    runProgram answer (post env.services command result)
    callPostHandlers command result rest

/-- Handling validation, which has to succeed. -/
def validate (command : Object) (typeName : String) : Chain Unit := do
  let outcome ← (Validation.handling env.registry env.services env.token command).run
  let result ← ofOutcome outcome
  unless result.success do
    throw (EngineError.validationFailed typeName result : Raise)

/-- Handling validation, handler and post-handlers of a command. -/
def rawExecute (command : Object) (validated : Bool) : Chain CommandResult := do
  let d ← require env command
  unless d.kind.isCommand do
    throw (EngineError.kindMismatch d.type.name "command" d.kind : Raise)
  match d.handler with
  | none => throw (EngineError.noHandler d.type.name : Raise)
  | some (_, slot) =>
    unless validated do
      validate env command d.type.name
    let handler ← act (slot.resolve env.services)
    Account.mark (.handler command)
    let result ← runProgram answer (handler env.services command)
    callPostHandlers env answer command result d.postHandlers.zipIdx
    return result

/-- Executes a nested command.  Its events join the calling frame unless they stop here; they are
given back when they stop or when the caller asks for them. -/
def executeNested (command : Object) (stop giveEvents : Bool) :
    Chain (CommandResult × List Object) := do
  let depth := (← get).length
  if depth = 0 then
    throw (EngineError.noChainToExecute : Raise)
  openFrame command
  let outcome ← attempt (rawExecute env answer command false)
  match outcome with
  | .error (.panic p) => throw (.panic p)
  | .error (.failure f) =>
    modify (·.take depth)
    Account.mark (.closed .failed)
    throw (.failure f)
  | .ok result =>
    let events := (((← get)[depth]?).map (·.pending)).getD []
    modify (·.take depth)
    if stop then
      Account.mark (.closed .withheld)
      return (result, events)
    else if (← get).isEmpty then
      throw (EngineError.chainEnded : Raise)
    else
      modify (joinTop events)
      Account.mark (.closed .joined)
      return (result, if giveEvents then events else [])

/-! ## The root command -/

/-- A routed event that some handler waits for. -/
def isRoutedAndHandled (event : Object) : Bool :=
  match env.registry.descriptorOf? event with
  | some d => d.kind == .routedEvent && d.isHandled
  | none => false

/-- Walks over the final events and dispatches those that are routed and handled.  Events emitted
on the way are appended and walked over in their turn. -/
def finalDispatch : (limit : Nat) → List Object → Chain (List Object)
  | _, [] => return []
  | 0, _ :: _ => liftM (failure : Run (List Object))
  | limit + 1, event :: rest => do
    if isRoutedAndHandled env event then
      dispatch env answer event
      let more ← takeRootEvents
      return event :: (← finalDispatch limit (rest ++ more))
    else
      return event :: (← finalDispatch limit rest)

/-- The root command, then its final events. -/
def runRoot (limit : Nat) (command : Object) (validated : Bool) : Chain ExecutionOutcome := do
  openFrame command
  let result ← rawExecute env answer command validated
  let events ← takeRootEvents
  return ⟨result, ← finalDispatch env answer limit events⟩

/-- Executes a root command.  The stack is empty before and after. -/
def executeRoot (limit : Nat) (command : Object) (validated : Bool) : Chain ExecutionOutcome := do
  if !(← get).isEmpty then
    throw (EngineError.chainActive : Raise)
  let outcome ← attempt (runRoot env answer limit command validated)
  set ([] : List Frame)
  Account.mark .ended
  ofOutcome outcome

/-- Answers one request; the requests of the programs it runs are answered by `answer`. -/
def serve (limit : Nat) : (q : ContextRequest) → OnStack q.Reply
  | .execute command => (Prod.fst <$> executeNested env answer command false false).run
  | .executeWithEvents command stop => (executeNested env answer command stop true).run
  | .executeRoot command => (executeRoot env answer limit command false).run
  | .emit event => (emit env answer event).run
  | .dispatch event => (dispatch env answer event).run
  | .dispatchSafe event => dispatchSafe env answer event
  | .view => return ⟨← get, env.token, env.party⟩
  | .sign s => liftM (Traced.tell (.sign s) : Account Unit)

end Operations

/-! ## The knot -/

/-- Answers the requests of programs nested at most `n` deep. -/
def perform {D : Type} (env : Environment D) : (n : Nat) → (q : ContextRequest) → OnStack q.Reply
  | 0, q => liftM (failure : Run q.Reply)
  | n + 1, q => serve env (perform env n) n q

/-- The depth of nesting within which runs are answered. -/
def nestingLimit : Nat := Nat.pow 2 40

end Chain

/-! ## Contexts -/

/-- An environment and the frames that are on its stack. -/
structure Context (D : Type) where
  env : Environment D
  frames : List Frame

namespace Context

variable {D : Type}

/-- Runs a program in a context. -/
def run {α : Type} (c : Context D) (p : ChainProgram α) : Run (Outcome α × Context D) := do
  let (outcome, frames) ← (p.interpret (Chain.perform c.env Chain.nestingLimit)).run c.frames
  return (outcome, { c with frames })

/-- Executes a root command whose handling validation was done before. -/
def executeValidated (c : Context D) (command : Object) :
    Run (Outcome ExecutionOutcome × Context D) := do
  let limit := Chain.nestingLimit
  let (outcome, frames) ←
    (Chain.executeRoot c.env (Chain.perform c.env limit) limit command true).run.run c.frames
  return (outcome, { c with frames })

end Context

end CommandEngine
