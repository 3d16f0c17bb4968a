import CommandEngine.Codec
import CommandEngine.Handler

/-! # Reports for machines

How objects, results, validations and failures are shown as data: in the trace that scripted
handlers keep, and to whoever drives a scenario.
-/
namespace CommandEngine.Scenario

/-- Objects by their descriptions. -/
def describeAll (objects : List Object) : Json := Json.strs (objects.map (·.describe))

/-- The identity of the type whose values are shown as opaque. -/
def opaqueTypeId : String := "R0"

/-- A result: null for void, a number or a text as itself, and for all else only whether it is of
the opaque type. -/
def showResult (r : CommandResult) : Json :=
  match r.value with
  | none => .null
  | some ⟨_, .int n⟩ => .int n
  | some ⟨_, .str s⟩ => .str s
  | some v => .obj [("opaque", .bool (v.type.id == opaqueTypeId))]

/-- A validation result with the number of its errors. -/
def showValidation (r : ValidationResult) : Json :=
  .obj [("success", .bool r.success), ("messages", encode r.messages),
    ("log_key", Json.optStr r.logKey), ("errors", r.errors.length)]

/-- The engine's error with its wording, and what was wrong if a validation failed. -/
def showError (e : EngineError) : Json :=
  Json.fields [("error", some (.str e.name)), ("message", some (.str e.text)),
    ("validation", match e with
      | .validationFailed _ r => some (showValidation r)
      | _ => none)]

/-- A failure with its contexts. -/
def showFailure (f : Failure) : Json :=
  Json.fields [("error", some (.str ((f.engineError?.map (·.name)).getD "Other"))),
    ("message", some (.str f.text)), ("invalid_state", some (.bool f.isInvalidState)),
    ("validation", f.validation?.map showValidation)]

/-- What a panic carries. -/
def showPanic : Panic → Json
  | .text s => .str s
  | .other => .str "(not text)"

/-- A way of not returning. -/
def showRaise : Raise → Json
  | .failure f => showFailure f
  | .panic p => .obj [("panic", showPanic p)]

/-- The frames of a context, each with its command and the events that wait. -/
def showFrames (frames : List Frame) : Json :=
  .arr (frames.map fun f => .arr [.str f.command.describe, describeAll f.pending])

end CommandEngine.Scenario
