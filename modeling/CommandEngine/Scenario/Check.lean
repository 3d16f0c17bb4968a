import CommandEngine.Scenario.Script

/-! # Scripted validators

A scenario's validators are lists of checks: they record messages, ask for ambient values, fail,
panic, and look at what became of the checks inside them.  The first check that fails or panics
ends the checks around it.
-/
namespace CommandEngine.Scenario

/-- A check of a scripted validator. -/
inductive Check where
  | record (m : UserMessage)
  | ambient (key : String)
  | inspect
  | misbehave (m : Misbehaviour)
  | raise (e : EngineError)
  /-- Looks at a failure and goes on. -/
  | attempt (checks : List Check)
  | context (text : String) (checks : List Check)
  | ifAbove (bound : Int) (yes no : List Check)
  deriving Inhabited

namespace Check

/-- Writes into the trace. -/
def note (entry : Json) : ValidationProgram Unit :=
  Program.request (I := ValidationInterface) (.sign (.note entry))

/-- Makes a request whose reply is an outcome, and ends in it. -/
def ambientValues : ValidationProgram AmbientValues :=
  Program.ask (I := ValidationInterface) .ambientValues fun outcome => .done outcome

/-- What a validator sees when it looks around. -/
def lookAround (services : Services) : ValidationProgram Json := do
  let v ← Program.request (I := ValidationInterface) .view
  return .obj [("stage", .str v.stage.text), ("token", .str v.token.text),
    ("has_ambient", .bool v.hasAmbient), ("label", .str services.label),
    ("error_count", v.collector.errorCount), ("has_error", .bool v.collector.hasError),
    ("messages", v.collector.messages.length)]

section Run

variable (services : Services) (own : Int)

mutual

/-- Runs one check. -/
def run : Check → ValidationProgram Unit
  | .record m => Program.request (I := ValidationInterface) (.record m)
  | .ambient key => do
    let value := (← ambientValues).get? key
    note (.obj [("ambient", value.getD .null), ("found", .bool value.isSome)])
  | .inspect => do note (← lookAround services)
  | .misbehave m => .done m.outcome
  | .raise e => .raise e
  | .attempt checks =>
    (runAll checks).attempt fun
      | .ok () => note (.obj [("caught", .null)])
      | .error (.failure f) => note (.obj [("caught", showFailure f)])
      | .error (.panic p) => .raise (.panic p)
  | .context text checks =>
    (runAll checks).attempt fun
      | .error (.failure f) => .raise (.failure (f.withContext text))
      | ended => .done ended
  | .ifAbove bound yes no => if own > bound then runAll yes else runAll no

/-- Runs checks up to the first that does not return. -/
def runAll : List Check → ValidationProgram Unit
  | [] => pure ()
  | c :: rest => do
    run c
    runAll rest

end
end Run

/-- The validator of a list of checks. -/
def validator (name : String) (checks : List Check) : Validator Services := fun services o => do
  let v ← Program.request (I := ValidationInterface) .view
  note (.obj [("check", .str name), ("stage", .str v.stage.text)])
  runAll services o.body.number checks

end Check
end CommandEngine.Scenario
