import Rollout.Event
import Rollout.Reduction
import Rollout.Shorten

/-!
Updates as plans. A snapshot turns into a plan: the events in order, each with the state that is
left behind if that event is refused, and the state and the verdict at the end. Carrying a plan
out stops at the first refusal.
-/
namespace Rollout

/-- The id of the line that counts the units. -/
def overallId : String := "overall progress"

/-- Above this many units only the overall line is shown. -/
def maxBars : Nat := 20

/-- What a service looks like at one moment. -/
structure View where
  tasks : List Task
  active : List String
  rollback : Bool
  deriving Repr, DecidableEq

/-- The counts that an update ends with. -/
inductive Tally where
  | slots (running replicas slots : Nat)
  | nodes (running nodes : Nat)
  deriving Repr, DecidableEq

/-- An event, and the state that stays if it is refused. -/
structure Emission (σ : Type) where
  event : Event
  held : σ

structure Plan (σ : Type) where
  emissions : List (Emission σ)
  final : σ
  converged : Bool
  tally : Option Tally

namespace Plan

def events (p : Plan σ) : List Event := p.emissions.map Emission.event

def map (f : σ → τ) (p : Plan σ) : Plan τ :=
  ⟨p.emissions.map fun e => ⟨e.event, f e.held⟩, f p.final, p.converged, p.tally⟩

/-- What comes of a plan: the events that were taken, the state, and the verdict unless an event
was refused. -/
structure Outcome (σ : Type) where
  taken : List Event
  state : σ
  converged : Option Bool

/-- Carries a plan out. `refused` counts the events that are taken before one is refused. -/
def attempt (p : Plan σ) (refused : Option Nat) : Outcome σ :=
  match refused.bind fun n => p.emissions[n]?.map (n, ·) with
  | some (n, e) => ⟨(p.events).take n, e.held, none⟩
  | none => ⟨p.events, p.final, some p.converged⟩

end Plan

namespace Update

/-- The overall line. -/
def overall (running units : Nat) (rollback : Bool) : Event :=
  .act overallId <| (if rollback then "rolling back update: " else "") ++ toString running
    ++ " out of " ++ toString units ++ " tasks"

/-- The line of one unit: its error if it has one, else a bar while it is on its way. -/
def unitLine (id : String) (task : Task) (rollback : Bool) : List Event :=
  if task.status.error ≠ "" then [.act id (shortError task.status.error)]
  else if task.desired.isTerminal || task.observed.isTerminal then []
  else
    [.withBar id (TaskState.padded task.observed.label) (task.observed.progress rollback)
      TaskState.runningRank]

def countRunning (units : List (κ × Task)) : Nat :=
  (units.filter fun u => u.2.isRunning).length

/-- Has a unit left the running state? -/
def hasRegressed (units : List (κ × Task)) : Bool :=
  units.any fun u => u.2.observed != .running

end Update
end Rollout
