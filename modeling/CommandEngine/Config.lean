import CommandEngine.Chain

/-! # Configuring a host

A host is configured by the number of its runners, the identity of the party it runs for and the
largest number of runners it may ever have.  The settings come from the caller or from named
variables; a variable that is not set, or whose bytes are no text, leaves the default in place.

A count is a decimal number of at most 64 bits; a plus sign may precede it, and nothing else may.
Of two faults the first counts, reading from the left.
-/
namespace CommandEngine

/-- Why a text is no count. -/
inductive CountError where
  | missing
  | notADigit
  | tooLarge
  deriving DecidableEq, Repr, Inhabited

namespace CountError

/-- The wording. -/
def text : CountError → String
  | missing => "cannot parse integer from empty string"
  | notADigit => "invalid digit found in string"
  | tooLarge => "number too large to fit in target type"

end CountError

/-- The largest count. -/
def maxCount : Nat := Nat.pow 2 64 - 1

/-- The value of a decimal digit. -/
def digitValue? (c : Char) : Option Nat :=
  if '0' ≤ c ∧ c ≤ '9' then some (c.toNat - '0'.toNat) else none

/-- Appends a digit to a count. -/
def countDigit (n : Nat) (c : Char) : Except CountError Nat :=
  match digitValue? c with
  | none => .error .notADigit
  | some d => if 10 * n + d ≤ maxCount then .ok (10 * n + d) else .error .tooLarge

/-- Reads a count. -/
def readCount (s : String) : Except CountError Nat :=
  match s.toList with
  | [] => .error .missing
  | ['+'] => .error .notADigit
  | '+' :: digits => digits.foldlM countDigit 0
  | digits => digits.foldlM countDigit 0

/-- The settings of a host. -/
structure HostConfig where
  runnerCount : Nat
  party : String
  maxRunnerCount : Nat
  deriving DecidableEq, Repr, Inhabited

/-- What is wrong with a configuration. -/
inductive ConfigError where
  | badCount (variableName : String) (e : CountError)
  | maxOutOfRange (max : Nat)
  | runnersOutOfRange (max runners : Nat)
  deriving DecidableEq, Repr, Inhabited

namespace HostConfig

/-- No host has more runners than this. -/
def runnerLimit : Nat := 1000

/-- One runner, the local party, and room for as many runners as any host may have. -/
def default : HostConfig := ⟨1, Environment.localParty, runnerLimit⟩

/-- The default with another number of runners. -/
def withRunnerCount (n : Nat) : HostConfig := { default with runnerCount := n }

/-- The counts are in range: first the maximum, then the number of runners. -/
def validate (c : HostConfig) : Except ConfigError Unit :=
  if c.maxRunnerCount = 0 ∨ c.maxRunnerCount > runnerLimit then
    .error (.maxOutOfRange c.maxRunnerCount)
  else if c.runnerCount = 0 ∨ c.runnerCount > c.maxRunnerCount then
    .error (.runnersOutOfRange c.maxRunnerCount c.runnerCount)
  else .ok ()

/-! ### Variables -/

/-- The variable that holds the number of runners. -/
def runnerCountVariable : String := "CRIS_RUNNER_COUNT"
/-- The variable that holds the identity of the party. -/
def partyVariable : String := "CRIS_PARTY_IDENTITY"
/-- The variable that holds the largest number of runners. -/
def maxRunnerCountVariable : String := "CRIS_MAX_RUNNER_COUNT"

/-- A count from a variable. -/
def countOf (lookup : String → Option String) (name : String) (fallback : Nat) :
    Except ConfigError Nat :=
  match lookup name with
  | none => .ok fallback
  | some s => (readCount s).mapError (.badCount name)

/-- The settings that variables give; they are validated. -/
def ofVariables (lookup : String → Option String) : Except ConfigError HostConfig := do
  let runnerCount ← countOf lookup runnerCountVariable default.runnerCount
  let maxRunnerCount ← countOf lookup maxRunnerCountVariable default.maxRunnerCount
  let config : HostConfig :=
    ⟨runnerCount, (lookup partyVariable).getD default.party, maxRunnerCount⟩
  config.validate
  return config

end HostConfig

/-- The wording. -/
def ConfigError.text : ConfigError → String
  | badCount variableName e => s!"{variableName} must be a valid number: {e.text}"
  | maxOutOfRange max =>
    s!"max runner count must be within [1, {HostConfig.runnerLimit}], got {max}"
  | runnersOutOfRange max runners => s!"runner count must be within [1, {max}], got {runners}"

end CommandEngine
