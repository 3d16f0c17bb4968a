import CommandEngine.Program

/-! # Handlers

Handlers, post-handlers and event handlers are programs over the context of the call chain they
run in, validators are programs over a validation context.  Each is given the services of the call
and the object it is called for.  The requests of the two interfaces are all that a program can do
inside a chain.  So a statement about every program is one about every application that keeps to
them, which is to say that

* it never puts another context, or another collector of messages, in the place of the one that it
  was given,
* what its services do is settled by the call and its replies: they keep nothing from one call that
  would change what they do in the next,
* it goes on from a request when the request has ended, and does not drop it before.

A registration is a *slot*: a service shared by all calls, or a factory that makes the service
from the services of each call and may itself fail or panic.

A *typed* handler states the type it is written for and, for commands, the type it returns.  Its
erased form refuses an object of any other type.
-/
namespace CommandEngine

/-! ## The context of a call chain -/

/-- A command in execution and the events that wait on it. -/
structure Frame where
  command : Object
  pending : List Object
  deriving DecidableEq, Inhabited

/-- What a root command ends in: its result and the events of the whole chain. -/
structure ExecutionOutcome where
  result : CommandResult
  events : List Object
  deriving DecidableEq, Inhabited

/-- What a context shows: its frames, the root first, its token and its party. -/
structure ContextView where
  frames : List Frame
  token : Token
  party : String
  deriving DecidableEq, Inhabited

/-- The description of a frame. -/
def Frame.describe (f : Frame) : String :=
  "Frame \x7b command: " ++ Text.quoted f.command.type.name ++ ", pending_events: " ++
    toString f.pending.length ++ " \x7d"

/-- The description of a context. -/
def ContextView.describe (v : ContextView) : String :=
  "ExecutionContext \x7b issuer_token: " ++ v.token.describe ++ ", party_identity: " ++
    Text.quoted v.party ++ ", stack: " ++ Text.bracketed (v.frames.map (·.describe)) ++ ", .. \x7d"

/-- A request to the context of a call chain. -/
inductive ContextRequest where
  | execute (command : Object)
  /-- Gives the command's events; when they stop here, the calling frame does not get them. -/
  | executeWithEvents (command : Object) (stop : Bool)
  | executeRoot (command : Object)
  | emit (event : Object)
  | dispatch (event : Object)
  | dispatchSafe (event : Object)
  | view
  | sign (s : Sign)

/-- The replies of the context. -/
abbrev ContextRequest.Reply : ContextRequest → Type
  | execute _ => Outcome CommandResult
  | executeWithEvents _ _ => Outcome (CommandResult × List Object)
  | executeRoot _ => Outcome ExecutionOutcome
  | emit _ => Outcome Unit
  | dispatch _ => Outcome Unit
  | dispatchSafe _ => Bool
  | view => ContextView
  | sign _ => Unit

/-- What a call chain offers to handlers. -/
def ContextInterface : Interface := ⟨ContextRequest, ContextRequest.Reply⟩

/-- Application code inside a call chain. -/
abbrev ChainProgram := Program ContextInterface

/-! ## The context of a validation -/

/-- What a validation context shows. -/
structure ValidationView where
  stage : ValidationStage
  token : Token
  hasAmbient : Bool
  collector : Collector
  deriving DecidableEq, Inhabited

/-- A request to a validation context. -/
inductive ValidationRequest where
  | record (message : UserMessage)
  | ambientValues
  | view
  | sign (s : Sign)

/-- The replies of a validation context. -/
abbrev ValidationRequest.Reply : ValidationRequest → Type
  | record _ => Unit
  | ambientValues => Outcome AmbientValues
  | view => ValidationView
  | sign _ => Unit

/-- What a validation offers to validators. -/
def ValidationInterface : Interface := ⟨ValidationRequest, ValidationRequest.Reply⟩

/-- Application code inside a validation. -/
abbrev ValidationProgram := Program ValidationInterface

/-! ## Roles -/

section Roles

variable (D : Type)

/-- Executes a command. -/
abbrev Handler := D → Object → ChainProgram CommandResult

/-- Reacts to an executed command and its result. -/
abbrev PostHandler := D → Object → CommandResult → ChainProgram Unit

/-- Reacts to an event. -/
abbrev EventHandler := D → Object → ChainProgram Unit

/-- Records messages about an object. -/
abbrev Validator := D → Object → ValidationProgram Unit

/-- Makes the ambient values of a call from its services. -/
abbrev AmbientProvider := D → Act AmbientValues

/-- How a service is obtained for a call. -/
inductive Slot (T : Type) where
  | pooled (service : T)
  | perCall (factory : D → Act T)

/-- A handler written for one type of command. -/
structure TypedHandler where
  accepts : TypeKey
  returns : TypeKey
  handle : D → Object → ChainProgram Json

/-- A post-handler written for one type of command. -/
structure TypedPostHandler where
  accepts : TypeKey
  postHandle : D → Object → CommandResult → ChainProgram Unit

/-- An event handler written for one type of event. -/
structure TypedEventHandler where
  accepts : TypeKey
  handleEvent : D → Object → ChainProgram Unit

end Roles

namespace Slot

variable {D T S : Type}

/-- The service is shared by all calls. -/
def isPooled : Slot D T → Bool
  | pooled _ => true
  | perCall _ => false

/-- The description of a slot. -/
def describe (s : Slot D T) : String :=
  if s.isPooled then "ServiceSlot::Pooled" else "ServiceSlot::Scoped"

/-- Obtains the service for a call. -/
def resolve : Slot D T → D → Act T
  | pooled service, _ => pure service
  | perCall factory, services => factory services

/-- The slot of a service made from another one. -/
def map (f : T → S) : Slot D T → Slot D S
  | pooled service => pooled (f service)
  | perCall factory => perCall fun services => f <$> factory services

end Slot

/-! ## Typed code -/

section Typed

variable {D : Type}

/-- Fails unless the object is of the type the code is written for. -/
def requireType {I : Interface} (expected : TypeKey) (o : Object) : Program I Unit :=
  if o.type.id = expected.id then pure ()
  else .raise (EngineError.typeMismatch expected.name)

/-- The handler for objects of any type. -/
def TypedHandler.erase (h : TypedHandler D) : Handler D := fun services command => do
  requireType h.accepts command
  let output ← h.handle services command
  return CommandResult.ofOutput h.returns output

/-- The post-handler for objects of any type. -/
def TypedPostHandler.erase (h : TypedPostHandler D) : PostHandler D :=
    fun services command result => do
  requireType h.accepts command
  h.postHandle services command result

/-- The event handler for objects of any type. -/
def TypedEventHandler.erase (h : TypedEventHandler D) : EventHandler D := fun services event => do
  requireType h.accepts event
  h.handleEvent services event

end Typed
end CommandEngine
