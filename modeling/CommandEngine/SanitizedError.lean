import CommandEngine.Failure
import CommandEngine.Object
import CommandEngine.Token

/-! # What a caller gets to see

Nothing of a failure reaches the caller of a command but the messages of a failed validation.
Every other failure becomes one generic message, with the token as the key under which the log has
the rest.
-/
namespace CommandEngine

/-- An error as the caller of a command sees it. -/
structure SanitizedError where
  isValidationError : Bool
  messages : List UserMessage
  logKey : Option String
  deriving DecidableEq, Repr, Inhabited

namespace SanitizedError

/-- The message for every failure whose details stay inside. -/
def unhandledText : String := "An unhandled error occurred."

/-- The error of a rejected command. -/
def ofValidation (r : ValidationResult) : SanitizedError := ⟨true, r.messages, r.logKey⟩

/-- The error of a failure.  Only a failed validation shows its messages. -/
def ofFailure (f : Failure) (token : Token) : SanitizedError :=
  match f.validation? with
  | some r => ⟨true, r.messages, some token.text⟩
  | none => ⟨false, [.plain .error unhandledText], some token.text⟩

/-- The first message that is an error. -/
def firstError? (e : SanitizedError) : Option UserMessage := e.messages.find? (·.isError)

/-- One line: the kind of error, its first message and the key to the log. -/
def text (e : SanitizedError) : String :=
  let kind := if e.isValidationError then "validation error" else "error"
  let first := match e.firstError? with
    | some m => ": " ++ m.text
    | none => ""
  let key := match e.logKey with
    | some key => " (log key " ++ key ++ ")"
    | none => ""
  kind ++ first ++ key

end SanitizedError

/-- The end of a command, as its caller sees it. -/
inductive CallerResult where
  | success (result : CommandResult)
  | error (e : SanitizedError)
  deriving DecidableEq, Inhabited

namespace CallerResult

/-- The command was executed. -/
def isSuccess : CallerResult → Bool
  | success _ => true
  | error _ => false

/-- The result of an executed command. -/
def success? : CallerResult → Option CommandResult
  | success r => some r
  | error _ => none

/-- The error of a command that was not executed to its end. -/
def error? : CallerResult → Option SanitizedError
  | success _ => none
  | error e => some e

end CallerResult
end CommandEngine
