import CommandEngine.SanitizedError
import CommandEngine.ScopeData

/-! # Stored forms

Tokens, kinds, messages, validation results, ambient values, scope data and sanitized errors are
stored as JSON.  `encode` writes a value and `decode?` reads one; reading accepts more than
writing produces:

* a record is an object whose further fields are ignored, or the list of its fields in order;
* a list may only leave out final fields that have a default, and may not be longer than the
  record;
* a field without a value is absent, or null where a text or a record is expected;
* a name of an enumeration stands alone, or is the only field of an object and holds null.
-/
namespace CommandEngine

/-- A type with a stored form. -/
class Stored (α : Type) where
  encode : α → Json
  decode? : Json → Option α

export Stored (encode decode?)

namespace Stored

instance : Stored Json := ⟨id, some⟩
instance : Stored String := ⟨.str, Json.str?⟩
instance : Stored Bool := ⟨.bool, Json.bool?⟩

instance {α : Type} [Stored α] : Stored (List α) where
  encode as := .arr (as.map encode)
  decode? j := j.items?.bind fun items => items.mapM decode?

/-! ## Records -/

/-- The fields of a record, by name: those of an object, or the items of a list in the order of
`names`, at least `least` of them. -/
def record? (names : List String) (least : Nat) : Json → Option (String → Option Json)
  | .obj entries => some (Json.obj entries).field?
  | .arr items =>
    if least ≤ items.length ∧ items.length ≤ names.length then
      some fun name => ((names.zip items).find? (·.1 == name)).map (·.2)
    else none
  | _ => none

/-- A field that must be there. -/
def required? {α : Type} [Stored α] (value : Option Json) : Option α := value.bind decode?

/-- A field that may be absent or null; the outer `none` is a value of the wrong form. -/
def optional? {α : Type} [Stored α] : Option Json → Option (Option α)
  | none | some .null => some none
  | some j => (decode? j).map some

/-- The field of an optional value, left out when there is none. -/
def skipped {α : Type} [Stored α] (value : Option α) : Option Json := value.map encode

/-! ## Enumerations -/

/-- The name of an enumeration's member. -/
def memberName? : Json → Option String
  | .str s => some s
  | .obj [(name, .null)] => some name
  | _ => none

instance : Stored Kind := ⟨fun k => .str k.name, fun j => (memberName? j).bind Kind.ofName?⟩

instance : Stored MessageLevel :=
  ⟨fun l => .str l.name, fun j => (memberName? j).bind MessageLevel.ofName?⟩

/-! ## The engine's data -/

instance : Stored Token := ⟨fun t => .str t.uuid, fun j => j.str?.bind Token.ofText?⟩

instance : Stored UserMessage where
  encode m := Json.fields
    [("level", some (encode m.level)), ("text", some (.str m.text)), ("code", skipped m.code)]
  decode? j := do
    let field ← record? ["level", "text", "code"] 2 j
    let level ← required? (field "level")
    let text ← required? (field "text")
    let code ← optional? (field "code")
    return ⟨level, text, code⟩

instance : Stored ValidationResult where
  encode r := Json.fields
    [("messages", some (encode r.messages)), ("success", some (.bool r.success)),
      ("log_key", skipped r.logKey)]
  decode? j := do
    let field ← record? ["messages", "success", "log_key"] 2 j
    let messages ← required? (field "messages")
    let success ← required? (field "success")
    let logKey ← optional? (field "log_key")
    return ⟨messages, success, logKey⟩

instance : Stored AmbientValues where
  encode a := .obj [("values", .obj a.entries)]
  decode? j := do
    let field ← record? ["values"] 1 j
    match ← field "values" with
    | .obj entries => return AmbientValues.ofList entries
    | _ => none

instance : Stored ScopeData where
  encode d := Json.fields [("payload", some d.payload), ("ambient_values", skipped d.ambient)]
  decode? j := do
    let field ← record? ["payload", "ambient_values"] 0 j
    let ambient ← optional? (field "ambient_values")
    return ⟨(field "payload").getD .null, ambient⟩

instance : Stored SanitizedError where
  encode e := .obj
    [("is_validation_error", .bool e.isValidationError), ("messages", encode e.messages),
      ("log_key", Json.optStr e.logKey)]
  decode? j := do
    let field ← record? ["is_validation_error", "messages", "log_key"] 3 j
    let isValidationError ← required? (field "is_validation_error")
    let messages ← required? (field "messages")
    let logKey ← optional? (field "log_key")
    return ⟨isValidationError, messages, logKey⟩

end Stored
end CommandEngine
