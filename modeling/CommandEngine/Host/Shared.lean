import CommandEngine.Host.Settle

/-! # Sharing a host

A host is shared through handles.  It lives as long as one of them does; dropping the last one
begins the shutdown and waits for nothing.  A call of `shutdown` begins the shutdown at once and
ends when no runner is left; until then it holds a handle of its own.

Runners outlive the handles.  When the last of both is gone, the queue goes too, with the jobs
that no runner came to.
-/
namespace CommandEngine

/-- A host with its handles. -/
structure SharedHost (D : Type) where
  host : Host D
  /-- The handles that were ever made: is each still there? -/
  handles : List Bool
  /-- The calls of `shutdown` that have not ended. -/
  stopping : Nat
  /-- The calls of `shutdown` that have ended. -/
  stopped : Nat

namespace SharedHost

variable {D : Type} (s : SharedHost D)

/-- A host with its first handle. -/
def ofHost (host : Host D) : SharedHost D := ⟨host, [true], 0, 0⟩

/-- A handle is still there. -/
def hasHandle (i : Nat) : Bool := (s.handles[i]?).getD false

/-- Nothing holds the host any more. -/
def isReleased : Bool := !s.handles.any id && s.stopping == 0

/-- Begins the shutdown of a host that nothing holds any more, and drops its queue when no runner is
left. -/
def release : SharedHost D :=
  if s.isReleased then
    let host := s.host.beginShutdown
    { s with host := if host.pool.status.runnerCount = 0 then host.dropQueue else host }
  else s

/-- Makes another handle. -/
def clone : Nat × SharedHost D := (s.handles.length, { s with handles := s.handles ++ [true] })

/-- Drops a handle.  Tells whether it was there. -/
def dropHandle (i : Nat) : Bool × SharedHost D :=
  if s.hasHandle i then (true, release { s with handles := s.handles.set i false }) else (false, s)

/-- Ends the calls of `shutdown`, and the host with them, if no runner is left. -/
def endStopping : SharedHost D :=
  if s.host.pool.status.runnerCount = 0 then
    release { s with
      host := s.host.log (List.replicate s.stopping .stopped)
      stopping := 0
      stopped := s.stopped + s.stopping }
  else s

/-- Calls `shutdown`.  Tells whether the call ended at once.  The caller watches for the end. -/
def shutdown : Bool × SharedHost D :=
  let host := s.host.beginShutdown.wake (.watcher s.stopping)
  let begun : SharedHost D := { s with host, stopping := s.stopping + 1 }
  (host.pool.status.runnerCount == 0, begun.endStopping)

/-- Lets the runners move until none can. -/
def settle : SharedHost D := endStopping { s with host := s.host.settle }

/-- Drops everything that holds the host. -/
def close : SharedHost D :=
  release { s with handles := s.handles.map fun _ => false, stopping := 0 }

end SharedHost
end CommandEngine
