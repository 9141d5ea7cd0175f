import Rollout.Log.Line
import Rollout.Update

/-!
What a session tells about itself besides its events.
-/
namespace Rollout.Session

inductive Note where
  | watching (service : String)
  | polled (tasks active : Nat) (rollback : Bool)
  | counted (tally : Tally)
  | leftRunning (service : String)
  | completed (service : String)
  | converged (service : String)
  | detached (service : String) (settled : Bool)
  deriving Repr, DecidableEq

/-- A value of a note, by its name. -/
def named [ToString α] (name : String) (value : α) : Log.Field := ⟨name, toString value⟩

def Note.line : Note → Log.Line
  | .watching service =>
    ⟨.session, .info, "watching service rollout", [named "service" service]⟩
  | .polled tasks active rollback =>
    ⟨.session, .debug, "polled snapshot",
      [named "tasks" tasks, named "active_nodes" active, named "rollback" rollback]⟩
  | .counted (.slots running replicas slots) =>
    ⟨.update, .debug, "replicated tick",
      [named "running" running, named "replicas" replicas, named "slots" slots]⟩
  | .counted (.nodes running nodes) =>
    ⟨.update, .debug, "global tick", [named "running" running, named "nodes" nodes]⟩
  | .leftRunning service =>
    ⟨.session, .warn, "task left running state after convergence", [named "service" service]⟩
  | .completed service => ⟨.session, .info, "update completed", [named "service" service]⟩
  | .converged service => ⟨.session, .info, "service converged", [named "service" service]⟩
  | .detached service settled =>
    ⟨.session, .info, "detached from rollout",
      [named "service" service, named "converged" settled]⟩

end Rollout.Session
