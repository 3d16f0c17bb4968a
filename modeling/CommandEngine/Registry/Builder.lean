import CommandEngine.Registry.Descriptor

/-! # Building a registry

A builder collects declarations and registrations in the order they are made; nothing is checked
before `build`.

Building lays the registrations out first.  The declared supertypes must form no cycle.  Each
declared type gets the next position, which is entered in an index, and an empty descriptor there;
no type may be declared twice.  Then each sort of registration is handed out, in its order, to what
stands at the positions of the types it refers to: offers of handlers to rows of candidates beside
the descriptors, all others to the descriptors themselves.  A registration and an owning service
must refer to a declared type of a kind they fit: commands for handlers, validators, post-handlers
and owning services, routed events for event handlers.

At last the handler of each command is elected among the candidates at its position, in the order of
declaration.  The first check that fails is the error.
-/
namespace CommandEngine

/-- A declared type. -/
structure Declaration where
  type : TypeKey
  kind : Kind
  result : Option TypeKey
  deriving DecidableEq, Repr, Inhabited

/-- The declaration that a descriptor stands for. -/
def Descriptor.declaration {D : Type} (d : Descriptor D) : Declaration := ⟨d.type, d.kind, d.result⟩

/-- A handler that offers itself for a command.  Without a parameter type it is written for the
command's own type. -/
structure Offer (D : Type) where
  service : String
  method : String
  parameter : Option TypeKey
  returns : TypeKey
  allowsUnclosed : Bool
  handler : Slot D (Handler D)

namespace Offer

variable {D : Type}

/-- An offer that returns nothing and states no parameter. -/
def of (service method : String) (handler : Slot D (Handler D)) : Offer D :=
  ⟨service, method, none, TypeKey.unit, false, handler⟩

/-- The closed offer of typed handlers of one class: the class is the service. -/
def ofTyped (service : String) (accepts returns : TypeKey) (slot : Slot D (TypedHandler D)) :
    Offer D :=
  ⟨service, "handle", some accepts, returns, false, slot.map (·.erase)⟩

/-- What the offer is elected by. -/
def signature (o : Offer D) (command : TypeKey) : Candidate :=
  ⟨o.service, o.method, o.parameter.getD command, o.returns, o.allowsUnclosed⟩

end Offer

/-- What can be registered for a type. -/
inductive Registration where
  | handler
  | incomingValidator
  | handlingValidator
  | postHandler
  | eventHandler
  | owningService
  deriving DecidableEq, Repr, Inhabited

namespace Registration

/-- The wording in messages. -/
def text : Registration → String
  | handler => "handler"
  | incomingValidator => "incoming validator"
  | handlingValidator => "handling validator"
  | postHandler => "post-handler"
  | eventHandler => "event handler"
  | owningService => "owning service"

/-- The kinds that a registration fits. -/
def fits : Registration → Kind → Bool
  | eventHandler, k => k.isRouted
  | _, k => k.isCommand

end Registration

/-- Why a registry cannot be built. -/
inductive RegistryError where
  | duplicateType (typeName : String)
  | undeclaredType (typeName : String) (registration : Registration)
  | kindMismatch (typeName : String) (kind : Kind) (registration : Registration)
  | hierarchyCycle (cycle : Hierarchy.Cycle)
  | election (conflict : Conflict)
  deriving DecidableEq, Repr, Inhabited

/-- The name of the error in reports for machines. -/
def RegistryError.name : RegistryError → String
  | duplicateType _ => "DuplicateType"
  | undeclaredType .. => "UndeclaredType"
  | kindMismatch .. => "KindMismatch"
  | hierarchyCycle _ => "HierarchyCycle"
  | election _ => "Election"

/-- The wording. -/
def RegistryError.text : RegistryError → String
  | duplicateType typeName => s!"type {typeName} is declared twice"
  | undeclaredType typeName registration =>
    s!"{registration.text} registered for undeclared type {typeName}"
  | kindMismatch typeName kind registration =>
    s!"{registration.text} cannot be registered for {typeName} ({kind.text})"
  | hierarchyCycle cycle => cycle.text
  | election conflict => conflict.text

/-- Declarations and registrations, each list in the order they were made. -/
structure RegistryBuilder (D : Type) where
  types : List Declaration
  supertypes : List (TypeKey × TypeKey)
  owners : List (TypeKey × String)
  offers : List (TypeKey × Offer D)
  incomingValidators : List (TypeKey × Slot D (Validator D))
  handlingValidators : List (TypeKey × Slot D (Validator D))
  postHandlers : List (TypeKey × Slot D (PostHandler D))
  eventHandlers : List (TypeKey × Slot D (EventHandler D))
  provider : Option (AmbientProvider D)

namespace RegistryBuilder

variable {D : Type}

/-- Nothing is declared or registered. -/
def empty : RegistryBuilder D := ⟨[], [], [], [], [], [], [], [], none⟩

/-! ## Registering -/

/-- Declares a type. -/
def declare (b : RegistryBuilder D) (d : Declaration) : RegistryBuilder D :=
  { b with types := b.types ++ [d] }

/-- Declares a type as a direct subtype of another. -/
def supertype (b : RegistryBuilder D) (sub sup : TypeKey) : RegistryBuilder D :=
  { b with supertypes := b.supertypes ++ [(sub, sup)] }

/-- Names the service that alone may handle a command; a later call wins. -/
def owningService (b : RegistryBuilder D) (command : TypeKey) (service : String) :
    RegistryBuilder D :=
  { b with owners := b.owners ++ [(command, service)] }

/-- Offers a handler for a command. -/
def offer (b : RegistryBuilder D) (command : TypeKey) (o : Offer D) : RegistryBuilder D :=
  { b with offers := b.offers ++ [(command, o)] }

/-- Registers a validator for objects that enter the process. -/
def incomingValidator (b : RegistryBuilder D) (t : TypeKey) (v : Slot D (Validator D)) :
    RegistryBuilder D :=
  { b with incomingValidators := b.incomingValidators ++ [(t, v)] }

/-- Registers a validator for commands that are about to be handled. -/
def handlingValidator (b : RegistryBuilder D) (t : TypeKey) (v : Slot D (Validator D)) :
    RegistryBuilder D :=
  { b with handlingValidators := b.handlingValidators ++ [(t, v)] }

/-- Registers post-handlers written for a command under its type. -/
def postHandler (b : RegistryBuilder D) (t : TypeKey) (h : Slot D (TypedPostHandler D)) :
    RegistryBuilder D :=
  { b with postHandlers := b.postHandlers ++ [(t, h.map (·.erase))] }

/-- Registers event handlers written for an event under its type. -/
def eventHandler (b : RegistryBuilder D) (t : TypeKey) (h : Slot D (TypedEventHandler D)) :
    RegistryBuilder D :=
  { b with eventHandlers := b.eventHandlers ++ [(t, h.map (·.erase))] }

/-- Sets the provider of ambient values; a later call wins. -/
def ambientProvider (b : RegistryBuilder D) (p : AmbientProvider D) : RegistryBuilder D :=
  { b with provider := some p }

/-! ## Positions -/

/-- The descriptor of a declared type before anything is registered for it. -/
def blank (d : Declaration) (index : Nat) : Descriptor D :=
  ⟨index, d.type, d.kind, d.result, none, [], [], [], [], false⟩

/-- Enters the declared types in an index and makes their descriptors. -/
def enter (types : List Declaration) :
    Except RegistryError (List (String × Nat) × List (Descriptor D)) :=
  types.zipIdx.foldlM (fun (byType, descriptors) (d, index) =>
    if (byType.lookup d.type.id).isSome then .error (.duplicateType d.type.name)
    else .ok (byType ++ [(d.type.id, index)], descriptors ++ [blank d index])) ([], [])

/-- The position of the type that a registration refers to, which has to be of a kind it fits. -/
def positionOf (b : RegistryBuilder D) (byType : List (String × Nat)) (registration : Registration)
    (t : TypeKey) : Except RegistryError Nat :=
  match (byType.lookup t.id).bind fun i => (b.types[i]?).map fun d => (i, d.kind) with
  | none => .error (.undeclaredType t.name registration)
  | some (i, kind) =>
    if registration.fits kind then .ok i else .error (.kindMismatch t.name kind registration)

/-! ## Handing out -/

/-- Hands out registrations of one sort, in their order, to what stands at the positions of the
types they refer to. -/
def distribute {α σ : Type} (b : RegistryBuilder D) (byType : List (String × Nat))
    (registration : Registration) (items : List (TypeKey × α)) (push : TypeKey → α → σ → σ)
    (entries : List σ) : Except RegistryError (List σ) :=
  items.foldlM (fun entries (t, a) => do
    let i ← b.positionOf byType registration t
    return entries.modify i (push t a)) entries

/-- What the elections begin with. -/
structure Layout (D : Type) where
  hierarchy : Hierarchy
  byType : List (String × Nat)
  descriptors : List (Descriptor D)
  /-- Beside each descriptor, what is offered for its type. -/
  candidates : List (List (Candidate × Slot D (Handler D)))

/-- Checks everything and lays it out. -/
def layOut (b : RegistryBuilder D) : Except RegistryError (Layout D) := do
  let hierarchy ← (Hierarchy.empty.declareAll b.supertypes).mapError .hierarchyCycle
  let (byType, descriptors) ← enter b.types
  let candidates ← b.distribute byType .handler b.offers
    (fun t o offered => offered ++ [(o.signature t, o.handler)]) (descriptors.map fun _ => [])
  let descriptors ← b.distribute byType .incomingValidator b.incomingValidators
    (fun _ v d => { d with incomingValidators := d.incomingValidators ++ [v] }) descriptors
  let descriptors ← b.distribute byType .handlingValidator b.handlingValidators
    (fun _ v d => { d with handlingValidators := d.handlingValidators ++ [v] }) descriptors
  let descriptors ← b.distribute byType .postHandler b.postHandlers
    (fun _ p d => { d with postHandlers := d.postHandlers ++ [p] }) descriptors
  let descriptors ← b.distribute byType .eventHandler b.eventHandlers
    (fun _ h d => { d with eventHandlers := d.eventHandlers ++ [h] }) descriptors
  b.owners.forM fun (t, _) => discard (b.positionOf byType .owningService t)
  return ⟨hierarchy, byType, descriptors, candidates⟩

/-! ## Elections -/

/-- What was registered for a type. -/
def registered {α : Type} (items : List (TypeKey × α)) (t : TypeKey) : List α :=
  (items.filter (·.1.id == t.id)).map (·.2)

/-- The service named last for a type. -/
def owner? (b : RegistryBuilder D) (t : TypeKey) : Option String := (registered b.owners t).getLast?

/-- The seat of a declared command. -/
def seat (b : RegistryBuilder D) (d : Declaration) : Seat := ⟨d.type, d.result, b.owner? d.type⟩

/-- Takes an entry out of a row; the last one moves to its place. -/
def swapRemove {α : Type} (entries : List α) (i : Nat) : Option (α × List α) := do
  let entry ← entries[i]?
  let last ← entries.getLast?
  return (entry, (entries.set i last).dropLast)

/-- Completes a descriptor: the handler of a command is taken out of its candidates. -/
def complete (b : RegistryBuilder D) (h : Hierarchy) (d : Descriptor D)
    (offered : List (Candidate × Slot D (Handler D))) : Except RegistryError (Descriptor D) :=
  if d.kind.isCommand then do
    let winner ← (Election.elect h (b.seat d.declaration) (offered.map (·.1))).mapError .election
    let handler := winner.bind fun w => (swapRemove offered w).map (·.1)
    return { d with handler, isHandled := handler.isSome }
  else return { d with isHandled := d.kind.isRouted && !d.eventHandlers.isEmpty }

/-- Checks everything and makes the registry. -/
def build (b : RegistryBuilder D) : Except RegistryError (Registry D) := do
  let l ← b.layOut
  let descriptors ← (l.descriptors.zip l.candidates).mapM fun (d, offered) =>
    b.complete l.hierarchy d offered
  return ⟨descriptors, l.byType, l.hierarchy, b.provider⟩

/-! ## Records -/

/-- The candidates dropped in the election for one command. -/
def dropRecords (b : RegistryBuilder D) (h : Hierarchy) (d : Descriptor D)
    (offered : List (Candidate × Slot D (Handler D))) : List LogEvent :=
  (Election.dropped h (b.seat d.declaration) (offered.map (·.1))).map fun (c, objection) =>
    .candidateDropped d.type c objection

/-- The records of the elections, up to the first one that fails. -/
def electionRecords (b : RegistryBuilder D) (h : Hierarchy) :
    List (Descriptor D × List (Candidate × Slot D (Handler D))) → List LogEvent
  | [] => []
  | (d, offered) :: rest =>
    if d.kind.isCommand then
      b.dropRecords h d offered ++
        if (b.complete h d offered).toBool then b.electionRecords h rest else []
    else b.electionRecords h rest

/-- The records made by building. -/
def records (b : RegistryBuilder D) : List LogEvent :=
  match b.layOut with
  | .error _ => []
  | .ok l => b.electionRecords l.hierarchy (l.descriptors.zip l.candidates) ++
    match b.build with
    | .error _ => []
    | .ok r =>
      [.registryBuilt r.size (r.descriptors.filter fun d => d.kind.isCommand && d.isHandled).length]

end RegistryBuilder
end CommandEngine
