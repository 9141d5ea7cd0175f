import Rollout.Proofs.Session.Deeds
import Rollout.Proofs.Session.Stage

/-!
What a session leaves with its output, which may refuse events. A refusal ends the session; one that
ended otherwise has given its output all events that it emitted, and each was taken (`run_took`).
-/

namespace Rollout

/-- What an output took since it was new: it refused none of these events. -/
inductive Output.Took (o : Output σ) (new : σ) : List Event → σ → Prop
  | new : Took o new [] new
  | emit {es : List Event} {s : σ} (e : Event) : Took o new es s → (o.emit s e).1 = .ok () →
      Took o new (es ++ [e]) (o.emit s e).2
  | rest {es : List Event} {s : σ} : Took o new es s → Took o new es (o.rest s)

theorem Output.Took.fed {o : Output σ} {new s : σ} {es : List Event} (h : o.Took new es s) :
    o.Fed new es s := by
  induction h with
  | new => exact .new
  | emit e _ _ ih => exact .emit e ih
  | rest _ ih => exact .rest ih

namespace Session

def Entry.event? : Entry → Option Event
  | .emitted _ e => some e
  | _ => none

/-- The events that a session emitted, those included that its output refused. -/
def Run.events (r : Run σ) : List Event := r.log.filterMap Entry.event?

/-- The output of a run took all that the run emitted. -/
def Run.Took (o : Output σ) (new : σ) (r : Run σ) : Prop := o.Took new r.events r.output

/-- Did a session end without a refusal of its output? -/
def Ending.Unrefused (e : Ending) : Prop := ∀ x, e ≠ .done (.error (.output x))

variable {o : Output σ} {new : σ} {m : Option Moment} {r : Run σ}

/-! ## Actions -/

private theorem mark_events (r : Run σ) (m : Option Moment) (e : Entry) (he : e ≠ .interrupted) :
    (r.mark m e).events = r.events ++ e.event?.toList := by
  rw [Run.events, (mark_spec r m e he).1, List.filterMap_append]
  cases e <;> rfl

private theorem record_took (h : r.Took o new) {e : Entry} (he : e ≠ .interrupted)
    (hn : e.event? = none) : (r.record e).Took o new := by
  have hevents : (r.record e).events = r.events := by
    rw [Run.events, log_record r e he, List.filterMap_append]
    simp [Run.events, hn]
  rw [Run.Took, hevents]
  exact h

private theorem wait_took (h : r.Took o new) (time : Option Nat) :
    (r.wait o m time).2.Took o new := by
  let rested : Run σ := { r with output := o.rest r.output }
  have hrest : rested.Took o new := h.rest
  unfold Run.wait
  dsimp only
  repeat' split
  all_goals exact hrest

/-- An action that is not refused adds its event, if it has one. -/
theorem act_took (h : r.Took o new) (a : Action) (hn : ∀ x, (r.act o m a).1 ≠ .refused x) :
    (r.act o m a).2.Took o new := by
  cases a with
  | ask q =>
    have hq : Entry.asked q ≠ .interrupted := by simp
    show o.Took new (r.mark m (.asked q)).events (r.mark m (.asked q)).output
    rw [mark_events r m _ hq, (mark_spec r m _ hq).2.2.2.2]
    exact (List.append_nil r.events).symm ▸ h
  | wait time =>
    cases time with
    | zero => exact h
    | succ time => exact wait_took h _
  | stall => exact wait_took h _
  | emit e =>
    have he : Entry.emitted r.now e ≠ .interrupted := by simp
    have hact : r.act o m (.emit e) = r.emit o m e := rfl
    rw [hact] at hn ⊢
    cases hr : o.emit r.output e with
    | mk result output =>
      cases result with
      | error x => exact absurd (by simp [Run.emit, hr]) (hn x)
      | ok =>
        have hout : (r.emit o m e).2 = { r.mark m (.emitted r.now e) with output := output } := by
          simp [Run.emit, hr]
        rw [hout]
        show o.Took new (r.mark m (.emitted r.now e)).events output
        rw [mark_events r m _ he]
        have htook := h.emit e (by rw [hr])
        rwa [hr] at htook
  | settle b => exact h
  | note n => exact record_took h (by simp) rfl

theorem actAll_took (h : r.Took o new) (as : List Action)
    (hn : ∀ x, (r.actAll o m as).1 ≠ .refused x) : (r.actAll o m as).2.Took o new := by
  induction as generalizing r with
  | nil => exact h
  | cons a as ih =>
    unfold Run.actAll at hn ⊢
    split at hn
    · rename_i r' hact
      have ha := act_took (m := m) h a (by simp [hact])
      rw [hact] at ha
      exact ih ha hn
    · exact act_took h a hn

/-! ## Sessions -/

private theorem ending_took (next : Next) (h : next.ending.Unrefused) (x : OutputError) :
    next ≠ .refused x := by
  intro hx
  rw [hx] at h
  exact h x rfl

theorem detach_took (h : r.Took o new) (id : String)
    (hn : (detach o m id r).1.Unrefused) : (detach o m id r).2.Took o new :=
  actAll_took h _ (ending_took (r.actAll o m (detachActions id r.converged)).1 hn)

/-- What follows on actions keeps what the rest of the session keeps. -/
theorem afterActions_took {id : String} {acted : Next × Run σ} {rest : Run σ → Ending × Run σ}
    (h : (∀ x, acted.1 ≠ .refused x) → acted.2.Took o new)
    (hrest : ∀ r : Run σ, r.Took o new → (rest r).1.Unrefused → (rest r).2.Took o new)
    (hn : (afterActions o m id acted rest).1.Unrefused) :
    (afterActions o m id acted rest).2.Took o new := by
  obtain ⟨next, r⟩ := acted
  cases next with
  | goOn => exact hrest r (h (by simp)) hn
  | detach => exact detach_took (h (by simp)) id hn
  | refused x => exact absurd rfl (hn x)
  | stuck => exact h (by simp)

theorem ticks_took {options : Options} {id : String} {script : Script} (count : Nat) {k : Nat}
    {w : Watch} (h : r.Took o new) (hn : (ticks o options m id script count k w r).1.Unrefused) :
    (ticks o options m id script count k w r).2.Took o new := by
  induction count generalizing k w r with
  | zero => exact h
  | succ count ih =>
    rw [ticks_succ] at hn ⊢
    split at hn
    · rename_i hi
      rw [if_pos hi]
      exact detach_took h id hn
    · rename_i hi
      rw [if_neg hi]
      refine afterActions_took (actAll_took h _) (fun r₁ h₁ hn₁ => ?_) hn
      split at hn₁
      · exact h₁
      · exact h₁
      · exact h₁
      · exact afterActions_took (act_took h₁ _) (fun r₂ h₂ hn₂ => ih h₂ hn₂) hn₁

/-- A session up to the close of its output. -/
def ownRun (o : Output σ) (new : σ) (options : Options) (m : Option Moment) (id : String)
    (script : Script) (count : Nat) : Ending × Run σ :=
  ticks o options m id script count 0 (.start options.monitor)
    ((Run.begin new m).record (.noted (.watching id)))

/-- A session that was refused nothing has left all its events with its output. -/
theorem run_took (options : Options) (id : String) (script : Script) (count : Nat)
    (hn : (ownRun o new options m id script count).1.Unrefused) :
    (ownRun o new options m id script count).2.Took o new := by
  refine ticks_took count (record_took ?_ (by simp) rfl) hn
  have hbegin : (Run.begin new m).events = [] ∧ (Run.begin new m).output = new := by
    unfold Run.begin
    dsimp only
    split <;> exact ⟨rfl, rfl⟩
  rw [Run.Took, hbegin.1, hbegin.2]
  exact .new

end Session
end Rollout
