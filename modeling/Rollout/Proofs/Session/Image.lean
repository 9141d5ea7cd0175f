import Rollout.Proofs.Session.Taking

/-!
Sessions over outputs that answer alike. A session sees nothing of the state of its output but the
answers, so what one output remembers beyond another changes nothing in it (`run_image`).
-/

namespace Rollout

/-- An output that answers as another one does, whose states are images of its own. -/
structure Output.Answers (o : Output τ) (f : τ → σ) (plain : Output σ) : Prop where
  emit : ∀ s e, plain.emit (f s) e = ((o.emit s e).1, f (o.emit s e).2)
  close : ∀ s, plain.close (f s) = ((o.close s).1, f (o.close s).2)
  rest : ∀ s, plain.rest (f s) = f (o.rest s)

namespace Session

/-- A run as it is with the image of its output. -/
def Run.image (f : τ → σ) (r : Run τ) : Run σ :=
  ⟨r.now, r.journal, r.converged, r.interrupted, f r.output⟩

/-- What comes of a run, with the image of its output. -/
def imaged (f : τ → σ) (x : α × Run τ) : α × Run σ := (x.1, x.2.image f)

variable {o : Output τ} {f : τ → σ} {plain : Output σ}

theorem mark_image (f : τ → σ) (r : Run τ) (m : Option Moment) (e : Entry) :
    (r.image f).mark m e = (r.mark m e).image f := by
  have hhits : ((r.image f).record e).hits e m = (r.record e).hits e m := by
    cases m with
    | none => rfl
    | some moment => cases moment <;> rfl
  unfold Run.mark
  dsimp only
  rw [hhits]
  split <;> rfl

theorem emit_image (h : o.Answers f plain) (r : Run τ) (m : Option Moment) (e : Event) :
    (r.image f).emit plain m e = imaged f (r.emit o m e) := by
  have hmark := mark_image f r m (.emitted r.now e)
  have hanswer : plain.emit (r.image f).output e =
      ((o.emit r.output e).1, f (o.emit r.output e).2) := h.emit r.output e
  have hnow : (r.image f).now = r.now := rfl
  unfold Run.emit
  rw [hanswer, hnow, hmark]
  generalize o.emit r.output e = answer
  obtain ⟨result, s⟩ := answer
  cases result <;> rfl

theorem wait_image (h : o.Answers f plain) (r : Run τ) (m : Option Moment) (time : Option Nat) :
    (r.image f).wait plain m time = imaged f (r.wait o m time) := by
  have hrest : { r.image f with output := plain.rest (r.image f).output } =
      Run.image f { r with output := o.rest r.output } := by
    show (⟨_, _, _, _, plain.rest (f r.output)⟩ : Run σ) = _
    rw [h.rest]
    rfl
  unfold Run.wait
  rw [hrest]
  dsimp only [Run.image]
  cases r.interrupted with
  | true => rfl
  | false =>
    cases time with
    | none => cases m with
      | none => rfl
      | some moment => cases moment <;> rfl
    | some time => cases m with
      | none => rfl
      | some moment =>
        cases moment with
        | time t =>
          simp only [Bool.false_eq_true, if_false]
          split <;> rfl
        | _ => rfl

theorem act_image (h : o.Answers f plain) (m : Option Moment) (r : Run τ) (a : Action) :
    (r.image f).act plain m a = imaged f (r.act o m a) := by
  cases a with
  | ask q => exact congrArg (Next.goOn, ·) (mark_image f r m (.asked q))
  | wait time =>
    cases time with
    | zero => rfl
    | succ time => exact wait_image h r m (some (time + 1))
  | stall => exact wait_image h r m none
  | emit e => exact emit_image h r m e
  | settle converged => rfl
  | note n => rfl

theorem actAll_image (h : o.Answers f plain) (m : Option Moment) (r : Run τ) (as : List Action) :
    (r.image f).actAll plain m as = imaged f (r.actAll o m as) := by
  induction as generalizing r with
  | nil => rfl
  | cons a as ih =>
    rw [Run.actAll, Run.actAll, act_image h]
    cases r.act o m a with
    | mk next r' =>
      cases next with
      | goOn => exact ih r'
      | _ => rfl

theorem detach_image (h : o.Answers f plain) (m : Option Moment) (id : String) (r : Run τ) :
    detach plain m id (r.image f) = imaged f (detach o m id r) := by
  have hconverged : (r.image f).converged = r.converged := rfl
  rw [detach, detach, hconverged, actAll_image h]
  rfl

theorem afterActions_image (h : o.Answers f plain) (m : Option Moment) (id : String)
    (acted : Next × Run τ) {rest : Run σ → Ending × Run σ} {rest' : Run τ → Ending × Run τ}
    (hrest : ∀ r, rest (r.image f) = imaged f (rest' r)) :
    afterActions plain m id (imaged f acted) rest = imaged f (afterActions o m id acted rest') := by
  obtain ⟨next, r⟩ := acted
  cases next with
  | goOn => exact hrest r
  | detach => exact detach_image h m id r
  | _ => rfl

theorem ticks_image (h : o.Answers f plain) (options : Options) (m : Option Moment) (id : String)
    (script : Script) (count k : Nat) (w : Watch) (r : Run τ) :
    ticks plain options m id script count k w (r.image f) =
      imaged f (ticks o options m id script count k w r) := by
  induction count generalizing k w r with
  | zero => rfl
  | succ count ih =>
    have hi : (r.image f).interrupted = r.interrupted := rfl
    have hnow : (r.image f).now = r.now := rfl
    rw [ticks_succ, ticks_succ, hi, hnow]
    split
    · exact detach_image h m id r
    · dsimp only
      rw [actAll_image h]
      refine afterActions_image h m id _ fun r' => ?_
      cases (w.tick id (script k) r.now).verdict with
      | goOn w' =>
        dsimp only
        rw [act_image h]
        exact afterActions_image h m id _ fun r'' => ih (k + 1) w' r''
      | _ => rfl

theorem finish_image (h : o.Answers f plain) (own : Ending × Run τ) :
    finish plain (imaged f own) = imaged f (finish o own) := by
  obtain ⟨e, r⟩ := own
  cases e with
  | unfinished => rfl
  | done result =>
    have hclose : plain.close (r.image f).output =
        ((o.close r.output).1, f (o.close r.output).2) := h.close r.output
    simp only [imaged, finish, hclose]
    rfl

theorem ownRun_image (h : o.Answers f plain) (new : τ) (options : Options) (m : Option Moment)
    (id : String) (script : Script) (count : Nat) :
    ownRun plain (f new) options m id script count =
      imaged f (ownRun o new options m id script count) := by
  have hbegin : (Run.begin (f new) m).record (.noted (.watching id)) =
      ((Run.begin new m).record (.noted (.watching id))).image f := by
    unfold Run.begin
    dsimp only
    split <;> rfl
  rw [ownRun, hbegin, ticks_image h]
  rfl

/-- A session over the image of an output is the same session. -/
theorem run_image (h : o.Answers f plain) (new : τ) (options : Options) (m : Option Moment)
    (id : String) (script : Script) (count : Nat) :
    run plain (f new) options m id script count =
      imaged f (run o new options m id script count) := by
  have hown := ownRun_image h new options m id script count
  exact (congrArg (finish plain) hown).trans (finish_image h _)

end Session
end Rollout
