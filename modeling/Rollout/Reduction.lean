import Rollout.Snapshot

/-!
One task for each unit. Restarts and start-first updates leave several tasks in one slot or on one
node; the least advanced of them stands for the unit. Tasks in a state that is not recognized, and
tasks on nodes that are not active, are left out.
-/
namespace Rollout

/-- Does the challenger take the place of the task that was there? The lower desired state wins;
of equal ones the lower observed state, and on a full tie the task that was there stays. -/
def supersedes (existing challenger : Task) : Bool :=
  challenger.desired.rank < existing.desired.rank
    || challenger.desired.rank == existing.desired.rank
      && challenger.observed.rank < existing.observed.rank

/-- Only tasks in recognized states count. -/
def Task.isRecognized (t : Task) : Bool := t.desired.isRecognized && t.observed.isRecognized

/-- Puts a task under its key. The keys stay in ascending order. -/
def enroll [Ord κ] (key : κ) (task : Task) : List (κ × Task) → List (κ × Task)
  | [] => [(key, task)]
  | (k, t) :: rest =>
    match compare key k with
    | .lt => (key, task) :: (k, t) :: rest
    | .eq => (k, if supersedes t task then task else t) :: rest
    | .gt => (k, t) :: enroll key task rest

/-- The canonical task under each key, for the tasks that have one. -/
def canonical [Ord κ] (key? : Task → Option κ) (tasks : List Task) : List (κ × Task) :=
  tasks.foldl (fun units t =>
    if t.isRecognized then
      match key? t with
      | some key => enroll key t units
      | none => units
    else units) []

/-- A task that is not assigned yet belongs to its slot, and so does one on an active node. -/
def slotOf? (active : List String) (t : Task) : Option Nat :=
  if t.nodeId = "" ∨ t.nodeId ∈ active then some t.slot else none

def nodeOf? (active : List String) (t : Task) : Option String :=
  if t.nodeId ∈ active then some t.nodeId else none

def tasksBySlot (tasks : List Task) (active : List String) : List (Nat × Task) :=
  canonical (slotOf? active) tasks

def tasksByNode (tasks : List Task) (active : List String) : List (String × Task) :=
  canonical (nodeOf? active) tasks

end Rollout
