import CommandEngine.Chain
import CommandEngine.Codec
import CommandEngine.Executor
import CommandEngine.Registry.Builder
import CommandEngine.Scenario.Check

/-! # Described applications

The registrations, executors and other parts of an application, made from their descriptions.

Every scripted handler writes its name into the trace with the number of its object and the depth
of the chain, and then runs its script.  A registration may be resolved per call; its factory
writes into the trace too, and may misbehave.  The services are made from the payload of the scope
data, which may be a description of how to misbehave.
-/
namespace CommandEngine.Scenario

/-! ## Registrations -/

/-- What the value returned by a script becomes: a value of another form becomes the least one. -/
inductive OutputForm where
  | nothing
  | integer
  | text
  | opaqueValue
  deriving DecidableEq, Repr, Inhabited

/-- The data of the output. -/
def OutputForm.coerce : OutputForm → Json → Json
  | integer, .int n => .int n
  | integer, _ => .int 0
  | text, .str s => .str s
  | text, _ => .str ""
  | nothing, _ | opaqueValue, _ => .null

/-- A handler written for one type of command, of a class that is its service. -/
structure HandlerClass where
  service : String
  returns : TypeKey
  form : OutputForm
  deriving DecidableEq, Repr, Inhabited

/-- The form of a handler. -/
inductive HandlerForm where
  | typed (kind : HandlerClass) (accepts : TypeKey)
  /-- Takes any object; an integer, a text or nothing is returned as such. -/
  | erased (service method : String) (integer text : TypeKey)
  deriving DecidableEq, Repr, Inhabited

/-- What an offer states beyond its form. -/
structure OfferTerms where
  parameter : Option TypeKey
  returns : Option TypeKey
  unclosed : Bool
  deriving DecidableEq, Repr, Inhabited

/-- The part of a registration. -/
inductive Role where
  | handler (form : HandlerForm) (terms : OfferTerms) (steps : List Step)
  | postHandler (steps : List Step)
  | eventHandler (steps : List Step)
  | incoming (checks : List Check)
  | handling (checks : List Check)
  deriving Inhabited

/-- A registration. -/
structure Item where
  type : TypeKey
  name : String
  /-- The registration is resolved per call, by a factory that may misbehave. -/
  perCall : Option Misbehaviour
  role : Role
  deriving Inhabited

/-- A provider of ambient values. -/
structure ProviderSpec where
  misbehaviour : Misbehaviour
  values : AmbientValues
  deriving Inhabited

/-- All registrations of an application. -/
structure Table where
  types : List Declaration
  supertypes : List (TypeKey × TypeKey)
  owners : List (TypeKey × String)
  provider : Option ProviderSpec
  items : List Item
  deriving Inhabited

/-- Writes that a handler was called, and what else is known. -/
def announce (name : String) (o : Object) (further : List (String × Json)) : ChainProgram Unit := do
  let v ← view
  note (.obj ([("in", .str name), ("n", .int o.body.number), ("depth", .int v.frames.length)] ++
    further))

namespace Item

variable (item : Item)

/-- The slot of a service. -/
def slot {T : Type} (service : T) : Slot Services T :=
  match item.perCall with
  | none => .pooled service
  | some m => .perCall fun services => do
    Act.sign (.note (.obj [("scoped", .str item.name), ("label", .str services.label)]))
    m.act
    return service

/-- Runs the script of a handler for an object. -/
def runScript (steps : List Step) (services : Services) (o : Object)
    (further : List (String × Json)) : ChainProgram Json := do
  announce item.name o further
  Script.run services o.body.number steps

/-- The offer of a handler. -/
def offer (form : HandlerForm) (terms : OfferTerms) (steps : List Step) : Offer Services :=
  let stated : Offer Services :=
    match form with
    | .typed kind accepts =>
      Offer.ofTyped kind.service accepts kind.returns
        (item.slot ⟨accepts, kind.returns, fun services o => do
          return kind.form.coerce (← item.runScript steps services o [])⟩)
    | .erased service method integer text =>
      Offer.of service method (item.slot fun services o => do
        match ← item.runScript steps services o [] with
        | .null => return .void
        | .str s => return .of text (.str s)
        | output => return .of integer (OutputForm.integer.coerce output))
  { stated with
    parameter := terms.parameter <|> stated.parameter
    returns := terms.returns.getD stated.returns
    allowsUnclosed := terms.unclosed || stated.allowsUnclosed }

/-- Registers the item. -/
def register (b : RegistryBuilder Services) : RegistryBuilder Services :=
  match item.role with
  | .handler form terms steps => b.offer item.type (item.offer form terms steps)
  | .postHandler steps =>
    b.postHandler item.type (item.slot ⟨item.type, fun services o result => do
      let _ ← item.runScript steps services o [("given", showResult result)]⟩)
  | .eventHandler steps =>
    b.eventHandler item.type (item.slot ⟨item.type, fun services o => do
      note (.obj [("event", .int o.body.number), ("tag", .str o.body.tag)])
      let _ ← item.runScript steps services o []⟩)
  | .incoming checks => b.incomingValidator item.type (item.slot (Check.validator item.name checks))
  | .handling checks => b.handlingValidator item.type (item.slot (Check.validator item.name checks))

end Item

/-- Makes ambient values: the label of the services is one of them, unless it is empty. -/
def ProviderSpec.provide (p : ProviderSpec) : AmbientProvider Services := fun services => do
  Act.sign (.note (.obj [("provider", .str services.label)]))
  p.misbehaviour.act
  return if services.label.isEmpty then p.values else p.values.set "label" (.str services.label)

/-- Makes all registrations. -/
def Table.builder (t : Table) : RegistryBuilder Services :=
  let b : RegistryBuilder Services := RegistryBuilder.empty
  let b := t.types.foldl RegistryBuilder.declare b
  let b := t.supertypes.foldl (fun b (sub, sup) => b.supertype sub sup) b
  let b := t.owners.foldl (fun b (command, service) => b.owningService command service) b
  let b := t.items.foldl (fun b item => item.register b) b
  match t.provider with
  | some p => b.ambientProvider p.provide
  | none => b

/-! ## Sinks and executors -/

/-- A sink that writes into the trace and misbehaves for events of one type. -/
def sink (on : String) (m : Misbehaviour) : Sink where
  receive event := Account.act do
    Act.sign (.note (.obj [("sink", .str event.describe)]))
    if event.type.id = on then m.act else pure ()
  outside _ _ hm := (Account.mark_not_mem_act _ _ hm).elim

/-- The label that a payload gives to services. -/
def payloadLabel (payload : Json) : String := ((payload.field "label").str?).getD ""

/-- Makes services from scope data. -/
def scopeOf (data : ScopeData) : Act Services := do
  (Misbehaviour.ofJson data.payload).act
  return ⟨payloadLabel data.payload, none⟩

/-- An executor. -/
inductive ExecutorSpec where
  /-- Every hook writes into the trace and misbehaves as described under its name. -/
  | hooks (hooks : Json)
  | factory
  | recording (recorder : String) (restore : Option Misbehaviour)
  deriving Inhabited

/-- Writes that a hook was called and what it saw, and misbehaves as described. -/
def hookAct (hooks : Json) (name : String) (seen : Json) : Act Unit := do
  Act.sign (.note (.obj [("hook", .str name), ("seen", seen)]))
  (Misbehaviour.ofJson (hooks.field name)).act

/-- The executor of a description. -/
def ExecutorSpec.executor : ExecutorSpec → Executor Services
  | hooks described => {
      createScope := fun info data => do
        hookAct described "create_scope"
          (.arr [.str info.command.describe, .str info.command.type.name, encode data])
        scopeOf data
      restoreAmbientValues := fun services values => do
        hookAct described "restore" (encode values)
        return { services with restored := some values }
      onValidationResult := fun _ result => .ofAct (hookAct described "validation"
        (.arr [.bool result.success, result.messages.length]))
      onImmediateEvent := fun _ event => hookAct described "immediate" (.str event.describe)
      onFinalResult := fun _ result events => .ofAct (hookAct described "final"
        (.arr [.bool result.isSuccess, describeAll events]))
      disposeScope := fun _ services => .ofAct (hookAct described "dispose" (.str services.label)) }
  | factory => .ofFactory scopeOf
  | recording recorder restore =>
    .recording recorder scopeOf (restore.map fun m services values => do
      m.act
      return { services with restored := some values })

/-- A report callback that writes into the trace, and panics if it is to. -/
def reportTo (panic : Option Panic) (executed : ExecutedCommand) : Notice :=
  .ofAct do
    Act.sign (.note (.obj [("report", .str executed.command.describe),
      ("success", .bool executed.result.isSuccess), ("events", describeAll executed.events)]))
    ExceptT.mk (pure (match panic with
      | some p => .error (.panic p)
      | none => .ok ()) : Traced Sign (Outcome Unit))

end CommandEngine.Scenario
