/-! # Kinds of objects

A declared type is that of a command, with or without a declared result, or of an event.  Events
differ in two ways that do not depend on each other: a *routed* event is dispatched to event
handlers while a caller-only one merely reaches the caller, and an *immediate* event is delivered
when it is emitted while the others wait on the frame of the command that emitted them.
-/
namespace CommandEngine

/-- What a type is declared as. -/
inductive Kind where
  | command
  | commandWithResult
  | callerOnlyEvent
  | callerOnlyImmediateEvent
  | routedEvent
  | routedImmediateEvent
  deriving DecidableEq, Repr, Inhabited

namespace Kind

/-- The event kind with the given two properties. -/
def event : (routed immediate : Bool) → Kind
  | false, false => callerOnlyEvent
  | false, true => callerOnlyImmediateEvent
  | true, false => routedEvent
  | true, true => routedImmediateEvent

/-- Objects of this kind are commands. -/
def isCommand : Kind → Bool
  | command | commandWithResult => true
  | _ => false

/-- Objects of this kind are events. -/
def isEvent (k : Kind) : Bool := !k.isCommand

/-- Objects of this kind are dispatched to event handlers. -/
def isRouted : Kind → Bool
  | routedEvent | routedImmediateEvent => true
  | _ => false

/-- Objects of this kind are delivered when they are emitted. -/
def isImmediate : Kind → Bool
  | callerOnlyImmediateEvent | routedImmediateEvent => true
  | _ => false

/-- The name in stored data and in descriptions. -/
def name : Kind → String
  | command => "Command"
  | commandWithResult => "CommandWithResult"
  | callerOnlyEvent => "CallerOnlyEvent"
  | callerOnlyImmediateEvent => "CallerOnlyImmediateEvent"
  | routedEvent => "RoutedEvent"
  | routedImmediateEvent => "RoutedImmediateEvent"

/-- The wording in messages. -/
def text : Kind → String
  | command => "command"
  | commandWithResult => "command_with_result"
  | callerOnlyEvent => "caller_only_event"
  | callerOnlyImmediateEvent => "caller_only_immediate_event"
  | routedEvent => "routed_event"
  | routedImmediateEvent => "routed_immediate_event"

/-- Every kind. -/
def all : List Kind :=
  [command, commandWithResult, callerOnlyEvent, callerOnlyImmediateEvent, routedEvent,
    routedImmediateEvent]

/-- The kind of a name. -/
def ofName? (s : String) : Option Kind := all.find? (·.name == s)

theorem event_isRouted (routed immediate : Bool) : (event routed immediate).isRouted = routed := by
  cases routed <;> cases immediate <;> rfl

theorem event_isImmediate (routed immediate : Bool) :
    (event routed immediate).isImmediate = immediate := by
  cases routed <;> cases immediate <;> rfl

end Kind
end CommandEngine
