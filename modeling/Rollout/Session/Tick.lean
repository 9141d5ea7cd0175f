import Rollout.Session.Note
import Rollout.Session.Script
import Rollout.Updater

/-!
One tick of a session. A tick asks for the service, follows its update status, asks for the tasks
and the nodes, and shows the progress. It is a list of actions and a verdict; when it is broken off
between two actions, the ones before it have been carried out.
-/
namespace Rollout.Session

inductive Action where
  | ask (request : Request)
  | wait (time : Nat)
  | stall
  | emit (e : Event)
  | settle (converged : Bool)
  | note (n : Note)
  deriving Repr, DecidableEq

/-- What a session remembers between ticks: its updater, the start of the converged stretch if the
last update converged, the time that it has to hold, and whether a rollback is under way. -/
structure Watch where
  updater : Option Updater
  since : Option Nat
  monitor : Nat
  rollback : Bool
  deriving Repr, DecidableEq

inductive Verdict where
  | goOn (w : Watch)
  | finish
  | fail (f : Failure)
  | never
  deriving Repr, DecidableEq

structure Tick where
  actions : List Action
  verdict : Verdict
  deriving Repr, DecidableEq

/-- A tick with actions in front of it. -/
def Tick.after (t : Tick) (actions : List Action) : Tick := ⟨actions ++ t.actions, t.verdict⟩

/-- The id of the notices about stability. -/
def verifyId : String := "verify"

/-- The id of the notice about a rollback. -/
def rollbackId : String := "rollback"

def second : Nat := 1000000000

def convergedNotice : Event := .act verifyId "Service converged"

def failureNotice : Event := .act verifyId "Detected task failure"

/-- Seconds with the one that has begun, in a word of 64 bits. -/
def secondsBegun (time : Nat) : UInt64 := (time / second).toUInt64 + 1

/-- The time that is left. -/
def waitingNotice (left : Nat) : Event :=
  .act verifyId <| "Waiting " ++ toString (secondsBegun left)
    ++ " seconds to verify that tasks are stable..."

/-- Sends a request and goes on with its answer. -/
def Reading.ask (r : Reading α) (request : Request) (next : α → Tick) : Tick :=
  let asking := [.ask request, .wait r.delay]
  match r.answer with
  | none => ⟨asking ++ [.stall], .never⟩
  | some (.error e) => ⟨asking, .fail (.query e)⟩
  | some (.ok a) => (next a).after asking

namespace Watch

def start (monitor : Nat) : Watch := ⟨none, none, monitor, false⟩

def isConverged (w : Watch) : Bool := w.since.isSome

/-- The service may change the time that it has to hold. -/
def observe (w : Watch) (service : Service) : Watch :=
  { w with monitor := service.monitor.getD w.monitor }

/-- The updater of the session. The first service that is seen chooses it. -/
def updaterFor? (w : Watch) (service : Service) : Option Updater :=
  match w.updater with
  | some u => some u
  | none => Updater.ofService? service

/-- What the update status says: the session ends, or goes on. An update that is over ends it only
when convergence was seen; a rollback that is over without that is a failure. -/
def follow (w : Watch) (id : String) (status : Option UpdateStatus) : Tick :=
  match status with
  | none => ⟨[], .goOn w⟩
  | some ⟨state, message⟩ =>
    match state with
    | .unknown => ⟨[], .goOn w⟩
    | .updating => ⟨[], .goOn { w with rollback := false }⟩
    | .completed => if w.isConverged then ⟨[.note (.completed id)], .finish⟩ else ⟨[], .goOn w⟩
    | .paused => ⟨[], .fail (.updatePaused message)⟩
    | .rollbackStarted =>
      ⟨if !w.rollback && message != "" then [.emit (.act rollbackId message)] else [],
        .goOn { w with rollback := true }⟩
    | .rollbackPaused => ⟨[], .fail (.rollbackPaused message)⟩
    | .rollbackCompleted =>
      if w.isConverged then ⟨[], .finish⟩ else ⟨[], .fail (.rolledBack message)⟩

/-- Has the converged stretch lasted long enough? -/
def isStable (w : Watch) (now : Nat) : Bool :=
  match w.since with
  | some since => w.monitor ≤ now - since
  | none => false

/-- The notices after an update, and the stretch that goes on, begins or ends with it. -/
def announce (w : Watch) (id : String) (converged : Bool) (now lag : Nat) : Tick :=
  if converged then
    let since := w.since.getD now
    let elapsed := now + lag - since
    ⟨if elapsed ≤ w.monitor then [.emit (waitingNotice (w.monitor - elapsed))] else [],
      .goOn { w with since := some since }⟩
  else
    ⟨if w.isConverged then [.note (.leftRunning id), .emit failureNotice] else [],
      .goOn { w with since := none }⟩

/-- Shows a snapshot. -/
def render (w : Watch) (id : String) (service : Service) (updater : Updater) (tasks : List Task)
    (nodes : List Node) (now lag : Nat) : Tick :=
  let active := activeNodes nodes
  let polled := [Action.note (.polled tasks.length active.length w.rollback)]
  match updater.update? service ⟨tasks, active, w.rollback⟩ with
  | none => ⟨polled, .fail .noReplicaCount⟩
  | some plan =>
    let shown := plan.events.map Action.emit
    let counted := plan.tally.toList.map fun t => Action.note (.counted t)
    ({ w with updater := some plan.final }.announce id plan.converged now lag).after
      (polled ++ shown ++ counted ++ [Action.settle plan.converged])

/-- Asks for the tasks and the nodes, and shows them. -/
def poll (w : Watch) (id : String) (frame : Frame) (service : Service) (updater : Updater)
    (now : Nat) : Tick :=
  frame.tasks.ask (.tasks (.current id)) fun tasks =>
    frame.nodes.ask .nodes fun nodes =>
      w.render id service updater tasks nodes (now + frame.tasks.delay + frame.nodes.delay)
        frame.lag

/-- One tick that begins at `now`. -/
def tick (w : Watch) (id : String) (frame : Frame) (now : Nat) : Tick :=
  frame.service.ask (.service id) fun service =>
    let now := now + frame.service.delay
    let w := w.observe service
    match w.updaterFor? service with
    | none => ⟨[], .fail .unrecognizedMode⟩
    | some updater =>
      let followed := w.follow id service.updateStatus
      match followed.verdict with
      | .goOn w =>
        (if w.isStable now then ⟨[.emit convergedNotice, .note (.converged id)], .finish⟩
        else w.poll id frame service updater now).after followed.actions
      | _ => followed

end Watch
end Rollout.Session
