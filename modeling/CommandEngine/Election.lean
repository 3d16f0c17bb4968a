import CommandEngine.Hierarchy

/-! # Electing the handler of a command

Several handlers may offer themselves for one command.  A candidate states its service and method,
the type of its parameter and the type it returns.  It is *closed* when its parameter is the
command's own type.

Candidates are first screened: those of a service that does not own the command, those that are
not closed and do not allow it, those whose parameter does not accept the command, and those that
do not return what the command promises are dropped, each for the first of these reasons.  Among
the *viable* ones that remain, `dominates` compares closedness, then the parameter, then the
returned type; the more specific one wins.  The elected candidate is the only viable one that no
viable one dominates.  When there are several, the election fails and names two of them, chosen by
their labels so that the order of the candidates plays no role in which labels are named.
-/
namespace CommandEngine

/-- What is known about a handler before it is elected. -/
structure Candidate where
  service : String
  method : String
  parameter : TypeKey
  returns : TypeKey
  /-- May be elected although its parameter is not the command's type. -/
  allowsUnclosed : Bool
  deriving DecidableEq, Repr, Inhabited

/-- The name of a candidate in texts. -/
def Candidate.label (c : Candidate) : String := c.service ++ "::" ++ c.method

/-- The command whose handler is elected. -/
structure Seat where
  command : TypeKey
  /-- The type that the handler has to return, if the command has a result. -/
  result : Option TypeKey
  /-- The service that alone may handle the command. -/
  owner : Option String
  deriving DecidableEq, Repr, Inhabited

/-- Why a candidate is not viable. -/
inductive Objection where
  | notOwner (owner : String)
  | notClosed
  | notAccepting
  | wrongReturn (expected : TypeKey)
  deriving DecidableEq, Repr, Inhabited

/-- Why two candidates cannot be ordered. -/
inductive ConflictReason where
  | identicalSignatures
  | unrelatedParameterTypes
  | unrelatedReturnTypes
  deriving DecidableEq, Repr, Inhabited

namespace ConflictReason

/-- The wording in messages. -/
def text : ConflictReason → String
  | identicalSignatures => "identical signatures"
  | unrelatedParameterTypes => "unrelated parameter types"
  | unrelatedReturnTypes => "unrelated return types"

/-- The name in reports for machines. -/
def name : ConflictReason → String
  | identicalSignatures => "IdenticalSignatures"
  | unrelatedParameterTypes => "UnrelatedParameterTypes"
  | unrelatedReturnTypes => "UnrelatedReturnTypes"

end ConflictReason

/-- Two candidates that cannot be ordered, by their labels. -/
structure Conflict where
  command : TypeKey
  first : String
  second : String
  reason : ConflictReason
  deriving DecidableEq, Repr, Inhabited

/-- The wording: the command, the two rivals and the reason. -/
def Conflict.text (c : Conflict) : String :=
  s!"ambiguous handlers for {c.command.name}: {c.first} and {c.second} ({c.reason.text})"

namespace Election

variable (h : Hierarchy) (seat : Seat)

/-! ## Screening -/

/-- The first objection to a candidate. -/
def objection? (c : Candidate) : Option Objection :=
  match seat.owner.filter (· != c.service) with
  | some owner => some (.notOwner owner)
  | none =>
    if c.parameter.id != seat.command.id && !c.allowsUnclosed then some .notClosed
    else if !h.isSubtype seat.command c.parameter then some .notAccepting
    else (seat.result.filter fun result => !h.isSubtype c.returns result).map .wrongReturn

/-- There is no objection to the candidate. -/
def isViable (c : Candidate) : Bool := (objection? h seat c).isNone

/-- The viable candidates with their positions. -/
def viable (candidates : List Candidate) : List (Candidate × Nat) :=
  candidates.zipIdx.filter fun (c, _) => isViable h seat c

/-! ## Domination -/

/-- The candidate's parameter is the command's own type. -/
def isClosed (c : Candidate) : Bool := c.parameter.id == seat.command.id

/-- A closed candidate beats an open one; otherwise the more specific parameter wins, and between
equal parameters the more specific returned type. -/
def dominates (a b : Candidate) : Bool :=
  if isClosed seat a != isClosed seat b then isClosed seat a
  else if a.parameter.id != b.parameter.id then h.isStrictSubtype a.parameter b.parameter
  else h.isStrictSubtype a.returns b.returns

/-- The viable candidates that no other viable one dominates. -/
def maximal (candidates : List Candidate) : List (Candidate × Nat) :=
  let all := viable h seat candidates
  all.filter fun (a, i) => !all.any fun (b, j) => j != i && dominates h seat b a

/-! ## The vote -/

/-- What keeps two undominated candidates from being ordered. -/
def conflictReason (a b : Candidate) : ConflictReason :=
  if a.parameter.id != b.parameter.id then .unrelatedParameterTypes
  else if a.returns.id == b.returns.id then .identicalSignatures
  else .unrelatedReturnTypes

/-- The order in which rivals are named: by label, equal labels as they came. -/
def byLabel (rivals : List (Candidate × Nat)) : List (Candidate × Nat) :=
  rivals.mergeSort fun (a, _) (b, _) => decide (a.label ≤ b.label)

/-- The position of the elected candidate; `none` when no candidate is viable. -/
def elect (candidates : List Candidate) : Except Conflict (Option Nat) :=
  match byLabel (maximal h seat candidates) with
  | [] => .ok none
  | [(_, winner)] => .ok (some winner)
  | (a, _) :: (b, _) :: _ => .error ⟨seat.command, a.label, b.label, conflictReason a b⟩

/-- The candidates that were dropped, in the order they stand, with the objections to them. -/
def dropped (candidates : List Candidate) : List (Candidate × Objection) :=
  candidates.filterMap fun c => (objection? h seat c).map (c, ·)

end Election
end CommandEngine
