import Rollout.TaskState

/-!
What the engine says about a service, its tasks and the nodes. Times are in nanoseconds.
-/
namespace Rollout

/-- How far the engine has come with an update. -/
inductive UpdateState where
  | updating
  | paused
  | completed
  | rollbackStarted
  | rollbackPaused
  | rollbackCompleted
  | unknown
  deriving Repr, DecidableEq

structure UpdateStatus where
  state : UpdateState
  message : String
  deriving Repr, DecidableEq

/-- A fixed number of replicas, if it is known. -/
structure Replicated where
  replicas : Option Nat
  deriving Repr, DecidableEq

/-- How a service is spread: over replicas, or with one task on every node. -/
structure Mode where
  replicated : Option Replicated
  isGlobal : Bool
  deriving Repr, DecidableEq

/-- How an update is carried out. A monitor of zero stands for one that is not set. -/
structure UpdateConfig where
  monitor : Nat
  deriving Repr, DecidableEq

structure ServiceSpec where
  name : String
  mode : Mode
  updateConfig : Option UpdateConfig
  deriving Repr, DecidableEq

structure Service where
  id : String
  spec : ServiceSpec
  updateStatus : Option UpdateStatus
  deriving Repr, DecidableEq

structure TaskStatus where
  state : TaskState
  message : String
  error : String
  deriving Repr, DecidableEq

/-- A task without a node is not assigned yet. -/
structure Task where
  id : String
  serviceId : String
  nodeId : String
  slot : Nat
  desired : TaskState
  status : TaskStatus
  deriving Repr, DecidableEq

inductive NodeState where
  | down
  | ready
  | disconnected
  | unknown
  deriving Repr, DecidableEq

structure Node where
  id : String
  state : NodeState
  deriving Repr, DecidableEq

def Mode.blank : Mode := ⟨none, false⟩

def Mode.ofReplicas (n : Nat) : Mode := ⟨some ⟨some n⟩, false⟩

def Mode.onEveryNode : Mode := ⟨none, true⟩

def Mode.replicas (m : Mode) : Option Nat := m.replicated.bind Replicated.replicas

def Service.replicas (s : Service) : Option Nat := s.spec.mode.replicas

/-- The time that the service has to hold before it counts as stable, if it sets one. -/
def Service.monitor (s : Service) : Option Nat :=
  (s.spec.updateConfig.map UpdateConfig.monitor).filter (0 < ·)

/-- The state a task was last seen in. -/
def Task.observed (t : Task) : TaskState := t.status.state

/-- Is the task meant to keep running, and does it run? -/
def Task.isRunning (t : Task) : Bool := !t.desired.isTerminal && t.observed == .running

def Node.isActive (n : Node) : Bool := n.state != .down

/-- The nodes that are not down, each once, in ascending order. -/
def activeNodes (nodes : List Node) : List String :=
  ((nodes.filter Node.isActive).map Node.id).foldr insertName []
where
  insertName (id : String) : List String → List String
    | [] => [id]
    | x :: xs => if id < x then id :: x :: xs else if id = x then x :: xs else x :: insertName id xs

end Rollout
