/-! # User messages and validation results

Validators speak to the user through messages of three levels.  A *collector* gathers them in the
order they are recorded and counts the errors; a *validation result* is what a finished validation
says.  It keeps a success flag beside the messages: a collector sets it by its count and
`ofMessages` by looking at the messages, and `ofMessages_eq_toResult` says that the two agree on
every list of messages.  Stored results are taken as they are written, flag included.
-/
namespace CommandEngine

/-- How grave a message is. -/
inductive MessageLevel where
  | info
  | warn
  | error
  deriving DecidableEq, Repr, Inhabited

namespace MessageLevel

/-- Position in the order of gravity. -/
def rank : MessageLevel → Nat
  | info => 0
  | warn => 1
  | error => 2

/-- The wording in texts. -/
def text : MessageLevel → String
  | info => "info"
  | warn => "warn"
  | error => "error"

/-- The name in stored data. -/
def name : MessageLevel → String
  | info => "Info"
  | warn => "Warn"
  | error => "Error"

/-- Every level. -/
def all : List MessageLevel := [info, warn, error]

/-- The level of a name. -/
def ofName? (s : String) : Option MessageLevel := all.find? (·.name == s)

end MessageLevel

/-- A message for the user, with a code for machines if it has one. -/
structure UserMessage where
  level : MessageLevel
  text : String
  code : Option String
  deriving DecidableEq, Repr, Inhabited

namespace UserMessage

/-- A message without code. -/
def plain (level : MessageLevel) (text : String) : UserMessage := ⟨level, text, none⟩

/-- The message fails a validation. -/
def isError (m : UserMessage) : Bool := m.level == .error

end UserMessage

/-- The messages recorded so far. -/
structure Collector where
  messages : List UserMessage
  errorCount : Nat
  deriving DecidableEq, Repr, Inhabited

/-- What a finished validation says. -/
structure ValidationResult where
  messages : List UserMessage
  success : Bool
  logKey : Option String
  deriving DecidableEq, Repr, Inhabited

namespace ValidationResult

/-- Success without messages. -/
def ok : ValidationResult := ⟨[], true, none⟩

/-- The result of a list of messages: a success unless one of them is an error. -/
def ofMessages (messages : List UserMessage) (logKey : Option String) : ValidationResult :=
  ⟨messages, !messages.any (·.isError), logKey⟩

/-- The error messages. -/
def errors (r : ValidationResult) : List UserMessage := r.messages.filter (·.isError)

end ValidationResult

namespace Collector

/-- Nothing is recorded. -/
def empty : Collector := ⟨[], 0⟩

/-- Records a message. -/
def add (c : Collector) (m : UserMessage) : Collector :=
  ⟨c.messages ++ [m], if m.isError then c.errorCount + 1 else c.errorCount⟩

/-- Records several messages in turn. -/
def addAll (c : Collector) (messages : List UserMessage) : Collector := messages.foldl add c

/-- At least one error was recorded. -/
def hasError (c : Collector) : Bool := c.errorCount > 0

/-- Ends the collection. -/
def toResult (c : Collector) (logKey : Option String) : ValidationResult :=
  ⟨c.messages, c.errorCount == 0, logKey⟩

/-- The count is that of the error messages. -/
def Counted (c : Collector) : Prop := c.errorCount = c.messages.countP (·.isError)

theorem counted_empty : empty.Counted := rfl

theorem Counted.add {c : Collector} (h : c.Counted) (m : UserMessage) : (c.add m).Counted := by
  unfold Counted at *
  by_cases hm : m.isError = true <;> simp [Collector.add, hm, h]

theorem Counted.addAll {c : Collector} (h : c.Counted) (messages : List UserMessage) :
    (c.addAll messages).Counted := by
  induction messages generalizing c with
  | nil => exact h
  | cons m rest ih => exact ih (h.add m)

theorem messages_addAll (c : Collector) (messages : List UserMessage) :
    (c.addAll messages).messages = c.messages ++ messages := by
  induction messages generalizing c with
  | nil => simp [addAll]
  | cons m rest ih =>
    have := ih (c.add m)
    simpa [addAll, add] using this

theorem ofMessages_eq_toResult (messages : List UserMessage) (logKey : Option String) :
    ValidationResult.ofMessages messages logKey = (empty.addAll messages).toResult logKey := by
  have hmessages : (empty.addAll messages).messages = messages := by simp [messages_addAll, empty]
  have hcount : (empty.addAll messages).errorCount = messages.countP (·.isError) := by
    have h := counted_empty.addAll messages
    rwa [Counted, hmessages] at h
  simp only [toResult, ValidationResult.ofMessages, hmessages, hcount]
  congr 1
  rw [Bool.eq_iff_iff]
  simp [List.countP_eq_zero]

end Collector
end CommandEngine
