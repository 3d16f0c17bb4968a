import CommandEngine.Ambient

/-! # Scope data

A job runs away from its caller's scope, so it takes with it what its own scope is built from: a
payload that only the application understands, and the ambient values of the caller, if they were
captured.
-/
namespace CommandEngine

/-- What the scope of a job is built from. -/
structure ScopeData where
  payload : Json
  ambient : Option AmbientValues
  deriving DecidableEq, Inhabited

namespace ScopeData

/-- A payload without ambient values. -/
def ofPayload (payload : Json) : ScopeData := ⟨payload, none⟩

/-- Nothing at all. -/
def empty : ScopeData := ofPayload .null

end ScopeData
end CommandEngine
