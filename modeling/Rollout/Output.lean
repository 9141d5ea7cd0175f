import Rollout.Event

/-!
Where events go. An output takes events one after another and is closed at the end; both can fail.
Text goes to a device, which may refuse to take it.
-/
namespace Rollout

/-- Why an output failed. -/
inductive OutputError where
  | refused (message : String)
  | writeRefused
  | flushRefused
  | closed
  | rendererStopped
  | rendererDied
  deriving Repr, DecidableEq

def OutputError.message : OutputError → String
  | .refused message => message
  | .writeRefused => "write refused"
  | .flushRefused => "flush refused"
  | .closed => "progress sink closed"
  | .rendererStopped => "progress renderer stopped"
  | .rendererDied => "progress renderer died"

/-- An output whose state is a `σ`. `rest` is what happens to it while nobody uses it. -/
structure Output (σ : Type) where
  emit : σ → Event → Except OutputError Unit × σ
  close : σ → Except OutputError Unit × σ
  rest : σ → σ

/-- A device that keeps the text it was given. One that refuses writes may take some more of them
before the first that it refuses. -/
structure Device where
  text : String
  flushes : Nat
  refusesWrites : Bool
  refusesFlushes : Bool
  spared : Nat
  deriving Repr, DecidableEq

namespace Device

def empty : Device := ⟨"", 0, false, false, 0⟩

def clear (d : Device) : Device := { d with text := "" }

def write (d : Device) (s : String) : Except OutputError Unit × Device :=
  if !d.refusesWrites then (.ok (), { d with text := d.text ++ s })
  else
    match d.spared with
    | 0 => (.error .writeRefused, d)
    | n + 1 => (.ok (), { d with text := d.text ++ s, spared := n })

/-- Writes texts one after another, up to the first that is refused. -/
def writeAll (d : Device) : List String → Except OutputError Unit × Device
  | [] => (.ok (), d)
  | s :: rest =>
    match d.write s with
    | (.ok (), d) => d.writeAll rest
    | (.error e, d) => (.error e, d)

def flush (d : Device) : Except OutputError Unit × Device :=
  if d.refusesFlushes then (.error .flushRefused, d)
  else (.ok (), { d with flushes := d.flushes + 1 })

end Device

namespace Output

/-- Drops everything. -/
def discard : Output Unit := ⟨fun _ _ => (.ok (), ()), fun _ => (.ok (), ()), id⟩

/-- One JSON object a line. -/
def jsonLines : Output Device where
  emit d e := d.writeAll [e.json, "\n"]
  close d := d.flush
  rest := id

end Output

/-- All events that were emitted, and how often the output was closed. -/
structure Recording where
  events : Array Event
  closes : Nat
  deriving Repr, DecidableEq

namespace Recording

def empty : Recording := ⟨#[], 0⟩

/-- The actions of the events with an id, in order. -/
def actionsOf (r : Recording) (id : String) : List String :=
  (r.events.toList.filter fun e => e.id == id).map Event.action

end Recording

def Output.recording : Output Recording where
  emit r e := (.ok (), { r with events := r.events.push e })
  close r := (.ok (), { r with closes := r.closes + 1 })
  rest := id

end Rollout
