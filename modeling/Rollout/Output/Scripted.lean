import Rollout.Output.Channel

/-!
Outputs that fail as told. They show what a session makes of refusals.
-/
namespace Rollout

/-- Emissions count from zero. -/
structure Failures where
  refuseAt : Option Nat
  breakAt : Option Nat
  refuseClose : Bool
  deriving Repr, DecidableEq

/-- What a scripted renderer was given. -/
inductive Delivery where
  | event (e : Event)
  | close
  deriving Repr, DecidableEq

structure Scripted where
  failures : Failures
  log : Array Delivery
  emitted : Nat
  deriving Repr, DecidableEq

namespace Scripted

def start (failures : Failures) : Scripted := ⟨failures, #[], 0⟩

/-- Every event is logged, whatever becomes of it. -/
def emit (s : Scripted) (e : Event) : Rendered × Scripted :=
  let n := s.emitted
  let s := { s with log := s.log.push (.event e), emitted := n + 1 }
  if s.failures.breakAt = some n then (.broken, s)
  else if s.failures.refuseAt = some n then
    (.refused (.refused ("emit " ++ toString n ++ " refused")), s)
  else (.ok, s)

def close (s : Scripted) : Except OutputError Unit × Scripted :=
  let s := { s with log := s.log.push .close }
  if s.failures.refuseClose then (.error (.refused "close refused"), s) else (.ok (), s)

def renderer : Renderer Scripted := ⟨emit, close⟩

end Scripted

/-- An output in front of another one. It counts what it lets through. -/
structure Gate (σ : Type) where
  inner : σ
  refuseAt : Option Nat
  refuseClose : Bool
  passed : Nat
  closes : Nat

namespace Gate

def emit (o : Output σ) (g : Gate σ) (e : Event) : Except OutputError Unit × Gate σ :=
  if g.refuseAt = some g.passed then (.error (.refused "emit refused"), g)
  else
    let (result, inner) := o.emit g.inner e
    (result, { g with inner, passed := g.passed + 1 })

/-- The error of the inner output goes before the gate's own. -/
def close (o : Output σ) (g : Gate σ) : Except OutputError Unit × Gate σ :=
  let (result, inner) := o.close g.inner
  let result := match result with
    | .error e => .error e
    | .ok () => if g.refuseClose then .error (.refused "close refused") else .ok ()
  (result, { g with inner, closes := g.closes + 1 })

end Gate

def Output.gated (o : Output σ) : Output (Gate σ) :=
  ⟨Gate.emit o, Gate.close o, fun g => { g with inner := o.rest g.inner }⟩

end Rollout
