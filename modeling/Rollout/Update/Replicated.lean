import Rollout.Update

/-!
Progress of a service with a fixed number of replicas. Its units are the slots; a slot gets the
next ordinal when it is first seen and keeps it, so each unit keeps its line.
-/
namespace Rollout.Update

/-- What is remembered between updates: the slots in the order of their ordinals, whether the
start-up lines were written, and whether all replicas were seen running. -/
structure Slots where
  seen : List Nat
  started : Bool
  settled : Bool
  deriving Repr, DecidableEq

namespace Slots

def fresh : Slots := ⟨[], false, false⟩

/-- Adds a slot that was not seen yet. -/
def record (s : Slots) (slot : Nat) : Slots :=
  if slot ∈ s.seen then s else { s with seen := s.seen ++ [slot] }

/-- Ordinals count from one. -/
def ordinal (s : Slots) (slot : Nat) : Nat := s.seen.idxOf slot + 1

def unitId (ordinal replicas : Nat) : String := toString ordinal ++ "/" ++ toString replicas

/-- The overall line and one empty line for each replica, so that the lines stand in order. -/
def startLines (replicas : Nat) (rollback : Bool) : List Event :=
  overall 0 replicas rollback ::
    if replicas ≤ maxBars then
      (List.range replicas).map fun i => .act (unitId (i + 1) replicas) " "
    else []

/-- Start-up: the slots are forgotten, and remain so until all lines are written. -/
def start (s : Slots) (replicas : Nat) (rollback : Bool) : List (Emission Slots) × Slots :=
  if s.started then ([], s)
  else
    let cleared := { s with seen := [] }
    ((startLines replicas rollback).map (⟨·, cleared⟩), { cleared with started := true })

/-- The line of one slot. Slots past the replica count have none, and a settled service shows no
lines at all. -/
def unitEvents (s : Slots) (replicas : Nat) (rollback : Bool) (slot : Nat) (task : Task) :
    List Event :=
  if s.settled || maxBars < replicas || replicas < s.ordinal slot then []
  else unitLine (unitId (s.ordinal slot) replicas) task rollback

/-- The lines of all slots, in ascending order. -/
def walk (replicas : Nat) (rollback : Bool) :
    Slots → List (Nat × Task) → List (Emission Slots) × Slots
  | s, [] => ([], s)
  | s, (slot, task) :: rest =>
    let s := s.record slot
    let (emissions, last) := walk replicas rollback s rest
    ((s.unitEvents replicas rollback slot task).map (⟨·, s⟩) ++ emissions, last)

/-- A settled service is no longer settled when a unit leaves the running state. -/
def wake (s : Slots) (units : List (Nat × Task)) : Slots :=
  { s with settled := s.settled && !hasRegressed units }

/-- The overall line closes an update, unless the service is settled. -/
def close (s : Slots) (running replicas : Nat) (rollback : Bool) :
    List (Emission Slots) × Slots :=
  if s.settled then ([], s)
  else ([⟨overall running replicas rollback, s⟩], { s with settled := running == replicas })

def update (s : Slots) (replicas : Nat) (view : View) : Plan Slots :=
  let units := tasksBySlot view.tasks view.active
  let running := countRunning units
  let (first, s) := s.start replicas view.rollback
  let (lines, s) := (s.wake units).walk replicas view.rollback units
  let (last, s) := s.close running replicas view.rollback
  ⟨first ++ lines ++ last, s, running == replicas, some (.slots running replicas units.length)⟩

end Slots
end Rollout.Update
