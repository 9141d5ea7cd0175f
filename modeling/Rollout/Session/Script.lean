import Rollout.Engine.Error
import Rollout.Engine.Request
import Rollout.Output
import Rollout.Snapshot

/-!
What a session meets: the answers of the engine with the time they take, and the settings of the
session. Times are in nanoseconds.
-/
namespace Rollout.Session

/-- The queries of a tick, in the order in which they are sent. -/
inductive Query where
  | service
  | tasks
  | nodes
  deriving Repr, DecidableEq

/-- The query that a request belongs to. -/
def Query.of : Request → Query
  | .service _ => .service
  | .tasks _ => .tasks
  | .nodes => .nodes

/-- The answer to one query, if it ever comes, and the time it takes. -/
structure Reading (α : Type) where
  delay : Nat
  answer : Option (Except EngineError α)

def Reading.prompt (a : α) : Reading α := ⟨0, some (.ok a)⟩

def Reading.silent : Reading α := ⟨0, none⟩

/-- The answers of one tick. Some time may pass between the moment when convergence is seen and the
moment when it is announced. -/
structure Frame where
  service : Reading Service
  tasks : Reading (List Task)
  nodes : Reading (List Node)
  lag : Nat

/-- The frames of all ticks. -/
abbrev Script := Nat → Frame

/-- The pause between ticks, and the time that a converged service has to hold unless it sets one
itself. -/
structure Options where
  interval : Nat
  monitor : Nat
  deriving Repr, DecidableEq

/-- Why a session failed. -/
inductive Failure where
  | unrecognizedMode
  | noReplicaCount
  | query (e : EngineError)
  | updatePaused (message : String)
  | rollbackPaused (message : String)
  | rolledBack (message : String)
  | output (e : OutputError)
  deriving Repr, DecidableEq

def Failure.message : Failure → String
  | .unrecognizedMode => "unrecognized service mode"
  | .noReplicaCount => "no replica count"
  | .query e => e.message
  | .updatePaused message => "service update paused: " ++ message
  | .rollbackPaused message => "service rollback paused: " ++ message
  | .rolledBack message => "service rolled back: " ++ message
  | .output e => "failed to write progress: " ++ e.message

end Rollout.Session
