import Rollout.Session.Tick

/-!
Running a session. The actions of its ticks are carried out against an output, and a moment may be
set at which the session is interrupted. An interruption is noticed while the session waits and
between ticks; the session then detaches, which is no failure. Whatever happens, the output is
closed once at the end.
-/
namespace Rollout.Session

/-- When a session is interrupted: before it starts, when a query is sent or an event is emitted
for the n-th time, or at a time. -/
inductive Moment where
  | start
  | query (q : Query) (n : Nat)
  | event (n : Nat)
  | time (t : Nat)
  deriving Repr, DecidableEq

/-- What happened in a session. -/
inductive Entry where
  | asked (request : Request)
  | emitted (time : Nat) (e : Event)
  | noted (n : Note)
  | interrupted
  deriving Repr, DecidableEq

/-- A session that runs: the time, what happened so far with the latest first, whether the last
update converged, whether it was interrupted, and its output. -/
structure Run (σ : Type) where
  now : Nat
  journal : List Entry
  converged : Bool
  interrupted : Bool
  output : σ

/-- What comes of an action. -/
inductive Next where
  | goOn
  | detach
  | refused (e : OutputError)
  | stuck
  deriving Repr, DecidableEq

def Entry.isAsked (q : Query) : Entry → Bool
  | .asked request => Query.of request == q
  | _ => false

def Entry.isEmitted : Entry → Bool
  | .emitted _ _ => true
  | _ => false

namespace Run

def record (r : Run σ) (e : Entry) : Run σ := { r with journal := e :: r.journal }

def interrupt (r : Run σ) : Run σ := { r.record .interrupted with interrupted := true }

def begin (output : σ) (moment : Option Moment) : Run σ :=
  let r : Run σ := ⟨0, [], false, false, output⟩
  if moment = some .start then r.interrupt else r

/-- How often a query was sent. -/
def calls (r : Run σ) (q : Query) : Nat := r.journal.countP (Entry.isAsked q)

/-- How many events were emitted. -/
def emissions (r : Run σ) : Nat := r.journal.countP Entry.isEmitted

/-- Has the moment come with the entry that was recorded last? -/
def hits (r : Run σ) (e : Entry) : Option Moment → Bool
  | some (.query q n) => e.isAsked q && r.calls q == n
  | some (.event n) => e.isEmitted && r.emissions == n
  | _ => false

/-- Records an entry, and interrupts the session if its moment has come. -/
def mark (r : Run σ) (moment : Option Moment) (e : Entry) : Run σ :=
  let r := r.record e
  if r.hits e moment then r.interrupt else r

/-- Emits an event. -/
def emit (o : Output σ) (r : Run σ) (moment : Option Moment) (e : Event) : Next × Run σ :=
  let (result, output) := o.emit r.output e
  let r := { r.mark moment (.emitted r.now e) with output }
  match result with
  | .ok () => (.goOn, r)
  | .error e => (.refused e, r)

/-- Waits, for ever if no time is given. Meanwhile the output goes on with its own work. A session
that was interrupted before does not wait, and one that is interrupted meanwhile waits no longer. -/
def wait (o : Output σ) (r : Run σ) (moment : Option Moment) (time : Option Nat) : Next × Run σ :=
  let r := { r with output := o.rest r.output }
  if r.interrupted then (.detach, r)
  else
    match moment, time with
    | some (.time t), some time =>
      if t < r.now + time then (.detach, { r.interrupt with now := max r.now t })
      else (.goOn, { r with now := r.now + time })
    | some (.time t), none => (.detach, { r.interrupt with now := max r.now t })
    | _, some time => (.goOn, { r with now := r.now + time })
    | _, none => (.stuck, r)

def act (o : Output σ) (moment : Option Moment) (r : Run σ) : Action → Next × Run σ
  | .ask request => (.goOn, r.mark moment (.asked request))
  | .wait 0 => (.goOn, r)
  | .wait time => r.wait o moment (some time)
  | .stall => r.wait o moment none
  | .emit e => r.emit o moment e
  | .settle converged => (.goOn, { r with converged })
  | .note n => (.goOn, r.record (.noted n))

/-- Carries actions out, up to the first after which the session does not go on. -/
def actAll (o : Output σ) (moment : Option Moment) (r : Run σ) : List Action → Next × Run σ
  | [] => (.goOn, r)
  | a :: as =>
    match r.act o moment a with
    | (.goOn, r) => actAll o moment r as
    | stop => stop

end Run

/-- How a session ended, if it did. -/
inductive Ending where
  | done (result : Except Failure Unit)
  | unfinished

def detachMessages (id : String) : List Event :=
  [.message "Operation continuing in background.",
   .message ("Use `docker service ps " ++ id ++ "` to check progress.")]

/-- The last actions of a session that was interrupted. Where convergence was seen there is nothing
left to hint at. -/
def detachActions (id : String) (converged : Bool) : List Action :=
  .note (.detached id converged) ::
    if converged then [] else (detachMessages id).map .emit

/-- The ending of a session that cannot go on. -/
def Next.ending : Next → Ending
  | .refused e => .done (.error (.output e))
  | .stuck => .unfinished
  | _ => .done (.ok ())

/-- Detaches from a session that was interrupted. -/
def detach (o : Output σ) (moment : Option Moment) (id : String) (r : Run σ) : Ending × Run σ :=
  let (next, r) := r.actAll o moment (detachActions id r.converged)
  (next.ending, r)

/-- What a session is carried out on: how a tick is performed and a pause is made, with what comes
of it, and how the session is left when it is interrupted. -/
structure Stage (m : Type → Type) (σ : Type) where
  perform : (k : Nat) → Watch → Run σ → m ((Next × Run σ) × Verdict)
  pause : Run σ → m (Next × Run σ)
  leave : Run σ → m (Ending × Run σ)

namespace Stage

variable [Monad m]

/-- What follows on actions: the rest of the session, its end, or detachment. -/
@[specialize]
def after (stage : Stage m σ) (acted : Next × Run σ) (rest : Run σ → m (Ending × Run σ)) :
    m (Ending × Run σ) :=
  match acted with
  | (.goOn, r) => rest r
  | (.detach, r) => stage.leave r
  | (next, r) => return (next.ending, r)

/-- Ticks with pauses between them, at most so many, from the tick numbered `k` on. -/
@[specialize]
def ticks (stage : Stage m σ) : (count : Nat) → (k : Nat) → Watch → Run σ → m (Ending × Run σ)
  | 0, _, _, r => return (.unfinished, r)
  | count + 1, k, w, r => do
    if r.interrupted then stage.leave r
    else
      let (acted, verdict) ← stage.perform k w r
      stage.after acted fun r =>
        match verdict with
        | .finish => return (.done (.ok ()), r)
        | .fail f => return (.done (.error f), r)
        | .never => return (.unfinished, r)
        | .goOn w => do
          stage.after (← stage.pause r) fun r => stage.ticks count (k + 1) w r

end Stage

/-- A stage on which the engine answers as in a script. -/
def Script.stage (script : Script) (o : Output σ) (options : Options) (moment : Option Moment)
    (id : String) : Stage Id σ where
  perform k w r :=
    let tick := w.tick id (script k) r.now
    (r.actAll o moment tick.actions, tick.verdict)
  pause r := r.act o moment (.wait options.interval)
  leave r := detach o moment id r

/-- Ticks of which the engine answers as in a script. -/
def ticks (o : Output σ) (options : Options) (moment : Option Moment) (id : String)
    (script : Script) (count k : Nat) (w : Watch) (r : Run σ) : Ending × Run σ :=
  ((script.stage o options moment id).ticks count k w r).run

/-- Closes the output. The failure of a session goes before that of closing. -/
def finish (o : Output σ) : Ending × Run σ → Ending × Run σ
  | (.unfinished, r) => (.unfinished, r)
  | (.done result, r) =>
    let (closed, output) := o.close r.output
    let result := match result, closed with
      | .error f, _ => .error f
      | .ok (), .error e => .error (.output e)
      | .ok (), .ok () => .ok ()
    (.done result, { r with output })

/-- Watches a service for at most `count` ticks. -/
def run (o : Output σ) (output : σ) (options : Options) (moment : Option Moment) (id : String)
    (script : Script) (count : Nat) : Ending × Run σ :=
  let r := (Run.begin output moment).record (.noted (.watching id))
  finish o (ticks o options moment id script count 0 (.start options.monitor) r)

end Rollout.Session
