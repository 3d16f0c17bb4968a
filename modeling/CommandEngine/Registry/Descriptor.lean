import CommandEngine.Handler

/-! # The registry

A registry holds one descriptor per declared type, in the order of declaration: the kind of the
type, its elected handler, its validators, post-handlers and event handlers.  An index gives the
position of each type, and objects find their descriptor there, by the identity of their type.  A
registry does not change once it is built.
-/
namespace CommandEngine

/-- Everything that is registered for one type. -/
structure Descriptor (D : Type) where
  index : Nat
  type : TypeKey
  kind : Kind
  /-- The declared result of a command with result. -/
  result : Option TypeKey
  /-- The elected handler with the signature it was elected by. -/
  handler : Option (Candidate × Slot D (Handler D))
  incomingValidators : List (Slot D (Validator D))
  handlingValidators : List (Slot D (Validator D))
  postHandlers : List (Slot D (PostHandler D))
  eventHandlers : List (Slot D (EventHandler D))
  /-- A command with a handler, or a routed event with an event handler. -/
  isHandled : Bool

/-- The descriptors of all declared types. -/
structure Registry (D : Type) where
  descriptors : List (Descriptor D)
  /-- The positions of the descriptors, by the identities of their types. -/
  byType : List (String × Nat)
  hierarchy : Hierarchy
  provider : Option (AmbientProvider D)

namespace Descriptor

variable {D : Type}

/-- The elected signature. -/
def signature? (d : Descriptor D) : Option Candidate := d.handler.map (·.1)

/-- The description of a descriptor. -/
def describe (d : Descriptor D) : String :=
  "CrisTypeDescriptor \x7b index: " ++ toString d.index ++ ", type: " ++ d.type.name ++
    ", kind: " ++ d.kind.name ++
    ", handler: " ++ Text.optional (fun c => Text.quoted c.label) d.signature? ++
    ", event_handlers: " ++ toString d.eventHandlers.length ++
    ", is_handled: " ++ Text.yesNo d.isHandled ++ ", .. \x7d"

end Descriptor

namespace Registry

variable {D : Type}

/-- The registry of some descriptors, in their order, without supertypes. -/
def of (descriptors : List (Descriptor D)) : Registry D :=
  ⟨descriptors, descriptors.zipIdx.map fun (d, index) => (d.type.id, index), .empty, none⟩

@[simp] theorem descriptors_of (descriptors : List (Descriptor D)) :
    (of descriptors).descriptors = descriptors := rfl

/-- The descriptor of a type. -/
def descriptor? (r : Registry D) (t : TypeKey) : Option (Descriptor D) :=
  (r.byType.lookup t.id).bind (r.descriptors[·]?)

/-- The descriptor of an object's type. -/
def descriptorOf? (r : Registry D) (o : Object) : Option (Descriptor D) := r.descriptor? o.type

/-- The descriptor of an object's type, which has to be registered. -/
def require (r : Registry D) (o : Object) : Except EngineError (Descriptor D) :=
  match r.descriptorOf? o with
  | some d => .ok d
  | none => .error (.unknownType o.type.name)

/-- How many types are declared. -/
def size (r : Registry D) : Nat := r.descriptors.length

/-- The description of a registry. -/
def describe (r : Registry D) : String :=
  "HandlerRegistry \x7b descriptors: " ++
    Text.bracketed (r.descriptors.map (·.describe)) ++ ", .. \x7d"

end Registry
end CommandEngine
