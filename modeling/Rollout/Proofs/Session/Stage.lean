import Rollout.Session.Run

/-!
The ticks of a session, unrolled. On a stage on which the engine answers as in a script nothing is
left of the monad, and one tick more is an equation (`ticks_succ`).
-/

namespace Rollout.Session

/-- What follows on actions that were carried out against an output. -/
def afterActions (o : Output σ) (m : Option Moment) (id : String) (acted : Next × Run σ)
    (rest : Run σ → Ending × Run σ) : Ending × Run σ :=
  match acted with
  | (.goOn, r) => rest r
  | (.detach, r) => detach o m id r
  | (next, r) => (next.ending, r)

theorem stage_after (o : Output σ) (options : Options) (m : Option Moment) (id : String)
    (script : Script) (acted : Next × Run σ) (rest : Run σ → Ending × Run σ) :
    (script.stage o options m id).after acted rest = afterActions o m id acted rest := by
  obtain ⟨next, r⟩ := acted
  cases next <;> rfl

theorem ticks_zero (o : Output σ) (options : Options) (m : Option Moment) (id : String)
    (script : Script) (k : Nat) (w : Watch) (r : Run σ) :
    ticks o options m id script 0 k w r = (.unfinished, r) := rfl

theorem ticks_succ (o : Output σ) (options : Options) (m : Option Moment) (id : String)
    (script : Script) (count k : Nat) (w : Watch) (r : Run σ) :
    ticks o options m id script (count + 1) k w r =
      if r.interrupted then detach o m id r
      else
        let tick := w.tick id (script k) r.now
        afterActions o m id (r.actAll o m tick.actions) fun r =>
          match tick.verdict with
          | .finish => (.done (.ok ()), r)
          | .fail f => (.done (.error f), r)
          | .never => (.unfinished, r)
          | .goOn w =>
            afterActions o m id (r.act o m (.wait options.interval)) fun r =>
              ticks o options m id script count (k + 1) w r := by
  unfold ticks
  rw [Stage.ticks]
  split
  · rfl
  · exact stage_after ..

end Rollout.Session
