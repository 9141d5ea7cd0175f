/-!
The lifecycle of a task. Recognized states are ranked in lifecycle order; the states behind
`running` are terminal. Any other label is kept as it was given and has no rank.
-/
namespace Rollout

inductive TaskState where
  | new
  | allocated
  | pending
  | assigned
  | accepted
  | preparing
  | ready
  | starting
  | running
  | complete
  | shutdown
  | failed
  | rejected
  | unrecognized (label : String)
  deriving Repr, DecidableEq

namespace TaskState

/-- The recognized states in lifecycle order. -/
def lifecycle : List TaskState :=
  [.new, .allocated, .pending, .assigned, .accepted, .preparing, .ready, .starting, .running,
    .complete, .shutdown, .failed, .rejected]

def label : TaskState → String
  | .new => "new"
  | .allocated => "allocated"
  | .pending => "pending"
  | .assigned => "assigned"
  | .accepted => "accepted"
  | .preparing => "preparing"
  | .ready => "ready"
  | .starting => "starting"
  | .running => "running"
  | .complete => "complete"
  | .shutdown => "shutdown"
  | .failed => "failed"
  | .rejected => "rejected"
  | .unrecognized label => label

/-- The state with a label. Labels are compared exactly. -/
def ofLabel (label : String) : TaskState :=
  (lifecycle.find? fun s => s.label == label).getD (.unrecognized label)

def rank? : TaskState → Option Nat
  | .new => some 1
  | .allocated => some 2
  | .pending => some 3
  | .assigned => some 4
  | .accepted => some 5
  | .preparing => some 6
  | .ready => some 7
  | .starting => some 8
  | .running => some 9
  | .complete => some 10
  | .shutdown => some 11
  | .failed => some 12
  | .rejected => some 13
  | .unrecognized _ => none

/-- The rank of `running`, which is also the length of a progress bar. -/
def runningRank : Nat := 9

def isRecognized (s : TaskState) : Bool := s.rank?.isSome

/-- An unrecognized state ranks below all others. -/
def rank (s : TaskState) : Nat := s.rank?.getD 0

/-- Terminal states lie behind `running`. -/
def isTerminal (s : TaskState) : Bool := runningRank < s.rank

/-- The place of a state on the progress bar. A rollback walks the bar backwards. -/
def progress (s : TaskState) (rollback : Bool) : Int :=
  if rollback then runningRank - s.rank else s.rank

/-- The column that every label fits which is shown beside a bar. -/
def labelWidth : Nat :=
  ((lifecycle.filter fun s => !s.isTerminal).map fun s => s.label.utf8ByteSize).foldl max 0

/-- A label with blanks behind it, up to the width of the column in characters. -/
def padded (label : String) : String :=
  label.pushn ' ' (labelWidth - label.length)

end TaskState
end Rollout
