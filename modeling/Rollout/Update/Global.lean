import Rollout.Update

/-!
Progress of a service with one task on every node. The nodes that have a task are the target, as
the engine creates the tasks of all nodes at once.
-/
namespace Rollout.Update

/-- What is remembered between updates: whether the first line was written, and whether all nodes
were seen running. -/
structure Nodes where
  started : Bool
  settled : Bool
  deriving Repr, DecidableEq

namespace Nodes

def fresh : Nodes := ⟨false, false⟩

def waiting : Event := .act overallId "waiting for new tasks"

/-- The line of one node. -/
def unitEvents (s : Nodes) (count : Nat) (rollback : Bool) (node : String) (task : Task) :
    List Event :=
  if s.settled || maxBars < count then [] else unitLine (shortId node) task rollback

/-- A settled service is no longer settled when a unit leaves the running state. -/
def wake (s : Nodes) (units : List (String × Task)) : Nodes :=
  { s with settled := s.settled && !hasRegressed units }

/-- The lines of all nodes and the overall line, once the first line was written. -/
def progress (s : Nodes) (rollback : Bool) (units : List (String × Task)) : Plan Nodes :=
  let count := units.length
  let running := countRunning units
  let s := s.wake units
  let lines := units.flatMap fun u => s.unitEvents count rollback u.1 u.2
  let verdict := running == count
  let last := if s.settled then [] else [overall running count rollback]
  ⟨(lines ++ last).map (⟨·, s⟩), { s with settled := s.settled || verdict }, verdict,
    some (.nodes running count)⟩

/-- Before the first line, a service without tasks is waited for. -/
def update (s : Nodes) (view : View) : Plan Nodes :=
  let units := tasksByNode view.tasks view.active
  if s.started then s.progress view.rollback units
  else if units.isEmpty then ⟨[⟨waiting, s⟩], s, false, none⟩
  else
    let rest := ({ s with started := true } : Nodes).progress view.rollback units
    { rest with emissions := ⟨overall 0 units.length view.rollback, s⟩ :: rest.emissions }

end Nodes
end Rollout.Update
