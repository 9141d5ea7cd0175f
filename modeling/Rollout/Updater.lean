import Rollout.Update.Global
import Rollout.Update.Replicated

/-!
The updater of a session. The mode of the service chooses it once, and it stays for the session.
-/
namespace Rollout

inductive Updater where
  | replicated (slots : Update.Slots)
  | global (nodes : Update.Nodes)
  deriving Repr, DecidableEq

namespace Updater

/-- The updater for the mode of a service. A replica count goes before the global mode. -/
def ofService? (service : Service) : Option Updater :=
  if service.replicas.isSome then some (.replicated .fresh)
  else if service.spec.mode.isGlobal then some (.global .fresh)
  else none

/-- The plan for a snapshot, if a replicated service still has its replica count. -/
def update? (u : Updater) (service : Service) (view : View) : Option (Plan Updater) :=
  match u with
  | .replicated slots =>
    service.replicas.map fun n => (slots.update n view).map .replicated
  | .global nodes => some ((nodes.update view).map .global)

end Updater
end Rollout
