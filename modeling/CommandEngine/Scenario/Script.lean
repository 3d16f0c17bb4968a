import CommandEngine.Scenario.Report

/-! # Scripted handlers

A scenario describes an application by data.  Its handlers are scripts: lists of steps that write
into a trace, emit events, execute commands, fail, panic, and look at what became of the steps
inside them.

A run of a script has two variables, the last result of a command and the value that the script
will return; nested steps share them, and they keep their values when a step fails and the failure
is looked at.  The first step that fails or panics ends the steps around it.
-/
namespace CommandEngine.Scenario

/-- The services of a scenario's calls. -/
structure Services where
  label : String
  /-- The ambient values that were restored. -/
  restored : Option AmbientValues
  deriving Inhabited

/-- A way in which scenario code may misbehave. -/
inductive Misbehaviour where
  | none
  | fail (text : String)
  | panic (p : Panic)
  deriving DecidableEq, Repr, Inhabited

namespace Misbehaviour

/-- Reads a description: an object with the text to fail with or with something to panic with.  All
else behaves, also an object that says null. -/
def ofJson (j : Json) : Misbehaviour :=
  match j.field "fail", j.field "panic" with
  | .str text, _ => fail text
  | _, .null => none
  | _, .str text => panic (.text text)
  | _, _ => panic .other

/-- Misbehaves, or returns. -/
def outcome : Misbehaviour → Outcome Unit
  | none => .ok ()
  | fail text => .error (.failure (.other text))
  | panic p => .error (.panic p)

/-- The same as an act. -/
def act (m : Misbehaviour) : Act Unit := ExceptT.mk (pure m.outcome)

end Misbehaviour

/-- Numbers are signed words of 64 bits: a sum past one end comes in again at the other. -/
def wordSum (a b : Int) : Int := (a + b).bmod (Nat.pow 2 64)

/-- A number: a constant, or the number of the object in hand and something more. -/
inductive NumberSpec where
  | constant (n : Int)
  | own (delta : Int)
  deriving DecidableEq, Repr, Inhabited

/-- An object to be made. -/
structure ObjectSpec where
  type : TypeKey
  keepsStamp : Bool
  number : NumberSpec
  tag : String
  deriving DecidableEq, Repr, Inhabited

/-- The number, given that of the object in hand. -/
def NumberSpec.value (own : Int) : NumberSpec → Int
  | constant n => n
  | .own delta => wordSum own delta

/-- Makes the object, given the number of the object in hand. -/
def ObjectSpec.make (own : Int) (o : ObjectSpec) : Object :=
  .fresh ⟨o.type, o.keepsStamp, o.number.value own, o.tag⟩

/-- A value to return. -/
inductive ReturnSpec where
  | constant (value : Json)
  | own (delta : Int)
  | last (delta : Int)
  | depth
  deriving DecidableEq, Inhabited

/-- A step of a script. -/
inductive Step where
  | log (text : String)
  | misbehave (m : Misbehaviour)
  | raise (e : EngineError)
  | emit (o : ObjectSpec)
  | dispatch (o : ObjectSpec)
  | dispatchSafe (o : ObjectSpec)
  | execute (o : ObjectSpec)
  | executeWithEvents (o : ObjectSpec) (stop : Bool)
  | executeRoot (o : ObjectSpec)
  /-- Looks at a failure and goes on. -/
  | attempt (steps : List Step)
  /-- Looks at a panic and goes on. -/
  | catchPanic (steps : List Step)
  | context (text : String) (steps : List Step)
  | ifAbove (bound : Int) (yes no : List Step)
  | again (times : Nat) (steps : List Step)
  | setReturn (value : ReturnSpec)
  | inspect
  | describe
  | restored (key : String)
  | wait (gate : String)
  deriving Inhabited

/-- The variables of a script. -/
structure Vars where
  last : CommandResult
  result : Json
  deriving DecidableEq, Inhabited

/-- The variables before the first step. -/
def Vars.start : Vars := ⟨.void, .null⟩

/-- A script's computation: it always ends with variables, and its own outcome beside them. -/
abbrev Script := ChainProgram (Outcome Unit × Vars)

/-- Writes into the trace. -/
def note (entry : Json) : ChainProgram Unit :=
  Program.request (I := ContextInterface) (.sign (.note entry))

/-- Asks for what the context shows. -/
def view : ChainProgram ContextView := Program.request (I := ContextInterface) .view

namespace Script

/-- Ends a step with an outcome. -/
def finish (vars : Vars) (outcome : Outcome Unit) : Script := pure (outcome, vars)

/-- Makes a request whose reply is an outcome, and goes on with its value. -/
def call {α : Type} (vars : Vars) (q : ChainProgram (Outcome α)) (next : α → Script) : Script := do
  match ← q with
  | .ok a => next a
  | .error e => finish vars (.error e)

/-- Writes into the trace and ends the step. -/
def noted (vars : Vars) (entry : Json) : Script := do
  note entry
  finish vars (.ok ())

/-- The integer a result is, else zero. -/
def integer (r : CommandResult) : Int :=
  match r.value with
  | some ⟨_, .int n⟩ => n
  | _ => 0

/-- The value to return. -/
def evaluate (own : Int) (vars : Vars) : ReturnSpec → ChainProgram Json
  | .constant value => pure value
  | .own delta => pure (.int (wordSum own delta))
  | .last delta => pure (.int (wordSum (integer vars.last) delta))
  | .depth => do return (← view).frames.length

/-- What a script sees when it looks around. -/
def lookAround (services : Services) : ChainProgram Json := do
  let v ← view
  return .obj [("depth", v.frames.length), ("executing", .bool !v.frames.isEmpty),
    ("current", Json.optStr (v.frames.getLast?.map (·.command.describe))),
    ("frames", showFrames v.frames), ("party", .str v.party), ("token", .str v.token.text),
    ("label", .str services.label)]

/-- Repeats a computation as long as it returns. -/
def repeated (body : Vars → Script) : Nat → Vars → Script
  | 0, vars => finish vars (.ok ())
  | n + 1, vars => do
    match ← body vars with
    | (.ok (), vars) => repeated body n vars
    | ended => return ended

section Run

variable (services : Services) (own : Int)

mutual

/-- Runs one step. -/
def step : Step → Vars → Script
  | .log text, vars => noted vars (.str text)
  | .misbehave m, vars => finish vars m.outcome
  | .raise e, vars => finish vars (.error e)
  | .emit o, vars =>
    call vars (Program.request (I := ContextInterface) (.emit (o.make own))) fun () =>
      finish vars (.ok ())
  | .dispatch o, vars =>
    call vars (Program.request (I := ContextInterface) (.dispatch (o.make own))) fun () =>
      finish vars (.ok ())
  | .dispatchSafe o, vars => do
    let safe ← Program.request (I := ContextInterface) (.dispatchSafe (o.make own))
    noted vars (.obj [("safe", .bool safe)])
  | .execute o, vars =>
    call vars (Program.request (I := ContextInterface) (.execute (o.make own))) fun result =>
      noted { vars with last := result } (.obj [("result", showResult result)])
  | .executeWithEvents o stop, vars =>
    call vars (Program.request (I := ContextInterface) (.executeWithEvents (o.make own) stop))
      fun (result, events) =>
        noted vars (.obj [("result", showResult result), ("events", describeAll events)])
  | .executeRoot o, vars =>
    call vars (Program.request (I := ContextInterface) (.executeRoot (o.make own))) fun outcome =>
      noted { vars with last := outcome.result }
        (.obj [("root", showResult outcome.result), ("events", describeAll outcome.events)])
  | .attempt steps, vars => do
    match ← sequence steps vars with
    | (.ok (), vars) => noted vars (.obj [("caught", .null)])
    | (.error (.failure f), vars) => noted vars (.obj [("caught", showFailure f)])
    | ended => return ended
  | .catchPanic steps, vars => do
    match ← sequence steps vars with
    | (.error (.panic p), vars) => noted vars (.obj [("panicked", showPanic p)])
    | ended => return ended
  | .context text steps, vars => do
    match ← sequence steps vars with
    | (.error (.failure f), vars) => finish vars (.error (.failure (f.withContext text)))
    | ended => return ended
  | .ifAbove bound yes no, vars => if own > bound then sequence yes vars else sequence no vars
  | .again times steps, vars => repeated (sequence steps) times vars
  | .setReturn value, vars => do
    let result ← evaluate own vars value
    finish { vars with result } (.ok ())
  | .inspect, vars => do noted vars (← lookAround services)
  | .describe, vars => do noted vars (.str (← view).describe)
  | .restored key, vars =>
    noted vars (.obj [("restored", ((services.restored.bind (·.get? key))).getD .null)])
  | .wait gate, vars => do
    Program.request (I := ContextInterface) (.sign (.wait gate))
    finish vars (.ok ())

/-- Runs steps up to the first that does not return. -/
def sequence : List Step → Vars → Script
  | [], vars => finish vars (.ok ())
  | s :: rest, vars => do
    match ← step s vars with
    | (.ok (), vars) => sequence rest vars
    | ended => return ended

end

/-- Runs a whole script and gives what it returns. -/
def run (steps : List Step) : ChainProgram Json := do
  let (outcome, vars) ← sequence services own steps .start
  match outcome with
  | .ok () => return vars.result
  | .error e => .raise e

end Run
end Script
end CommandEngine.Scenario
