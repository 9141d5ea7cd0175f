import Rollout.Engine.TaskFilter

/-!
What can be asked of an engine, and how it is written behind the base of a client.
-/
namespace Rollout

inductive Request where
  | service (id : String)
  | tasks (filter : TaskFilter)
  | nodes
  deriving Repr, DecidableEq

def Request.path : Request → String
  | .service id => "/services/" ++ id
  | .tasks _ => "/tasks"
  | .nodes => "/nodes"

def Request.pairs : Request → List (String × String)
  | .tasks filter => [("filters", filter.query)]
  | _ => []

end Rollout
