import Rollout.Proofs.Session.Acting
import Rollout.Proofs.Session.Taking

/-!
How a session passes, whatever its output answers and whenever it is interrupted. Actions are
carried out one after another, all of them or up to the first that stops the session
(`actAll_carried`). A session is ticks that are carried out whole, with pauses between them, up to
the tick that ends or stops it (`ticks_passage`).
-/

namespace Rollout.Session

/-! ## Actions -/

/-- A session notices an interruption only at actions that take time. -/
def Action.isWait : Action → Bool
  | .wait time => 0 < time
  | .stall => true
  | _ => false

/-- What has been done of some actions when the session goes on behind them or stops among them. It
stops with an event that is refused, or before a wait. -/
inductive Carried (r : Run σ) (as : List Action) : Next × Run σ → Prop
  | through {r' : Run σ} : r'.log = r.log ++ entriesOf (deedsFrom r.now as) →
      r'.now = timeAfter r.now as → Carried r as (.goOn, r')
  | refused {done rest : List Action} {e : Event} {x : OutputError} {r' : Run σ} :
      as = done ++ .emit e :: rest →
      r'.log = r.log ++ entriesOf (deedsFrom r.now (done ++ [.emit e])) →
      Carried r as (.refused x, r')
  | left {done rest : List Action} {a : Action} {r' : Run σ} : as = done ++ a :: rest →
      a.isWait = true → r'.log = r.log ++ entriesOf (deedsFrom r.now done) →
      r'.interrupted = true → Carried r as (.detach, r')
  | stuck {done rest : List Action} {r' : Run σ} : as = done ++ .stall :: rest →
      r'.log = r.log ++ entriesOf (deedsFrom r.now done) → Carried r as (.stuck, r')

variable {o : Output σ} {new : σ} {m : Option Moment} {r r' : Run σ} {as bs : List Action}

theorem Carried.append {acted : Next × Run σ} (h : Carried r as (.goOn, r'))
    (h' : Carried r' bs acted) : Carried r (as ++ bs) acted := by
  cases h with
  | through hlog hnow =>
    have hsplit : ∀ cs, r'.log ++ entriesOf (deedsFrom r'.now cs) =
        r.log ++ entriesOf (deedsFrom r.now (as ++ cs)) := by
      intro cs
      rw [hlog, hnow, deedsFrom_append, entriesOf_append, List.append_assoc]
    have hlist : ∀ (done rest : List Action) (a : Action), bs = done ++ a :: rest →
        as ++ bs = (as ++ done) ++ a :: rest := by
      rintro done rest a rfl
      rw [List.append_assoc]
    cases h' with
    | through hlog' hnow' =>
      exact .through (hlog'.trans (hsplit bs)) (by rw [hnow', hnow, timeAfter_append])
    | @refused done rest e x r'' hbs hlog' =>
      refine .refused (hlist _ _ _ hbs) ?_
      rw [hlog', hsplit, List.append_assoc]
    | @left done rest a r'' hbs ha hlog' hi =>
      exact .left (hlist _ _ _ hbs) ha (hlog'.trans (hsplit done)) hi
    | @stuck done rest r'' hbs hlog' =>
      exact .stuck (hlist _ _ _ hbs) (hlog'.trans (hsplit done))

theorem Carried.stop {next : Next} (h : Carried r as (next, r')) (hn : next ≠ .goOn)
    (bs : List Action) : Carried r (as ++ bs) (next, r') := by
  cases h with
  | through => exact absurd rfl hn
  | refused has hlog => exact .refused (by rw [has, List.append_assoc]; rfl) hlog
  | left has ha hlog hi => exact .left (by rw [has, List.append_assoc]; rfl) ha hlog hi
  | stuck has hlog => exact .stuck (by rw [has, List.append_assoc]; rfl) hlog

theorem eq_of_single {a b : Action} {done rest : List Action} (h : [a] = done ++ b :: rest) :
    done = [] ∧ a = b := by
  cases done with
  | nil => exact ⟨rfl, (List.cons.inj h).1⟩
  | cons => simp at h

/-- A session that waits goes on when the time is over, if it ever is, or leaves when it is
interrupted. -/
private theorem wait_carried (o : Output σ) (m : Option Moment) (r : Run σ) {a : Action}
    (time : Option Nat) (hw : a.isWait = true) (ha : a = (time.map Action.wait).getD .stall) :
    Carried r [a] (r.wait o m time) := by
  have hleave : ∀ r' : Run σ, r'.log = r.log → r'.interrupted = true →
      Carried r [a] (.detach, r') :=
    fun r' hlog hi => .left (List.nil_append [a]).symm hw (hlog.trans (List.append_nil _).symm) hi
  have hinterrupt := log_interrupt { r with output := o.rest r.output }
  unfold Run.wait
  dsimp only
  split
  · rename_i hi
    exact hleave _ rfl hi
  · cases time with
    | none =>
      obtain rfl : a = .stall := ha
      split
      · contradiction
      · exact hleave _ hinterrupt rfl
      · contradiction
      · exact .stuck (List.nil_append [Action.stall]).symm (List.append_nil _).symm
    | some time =>
      obtain rfl : a = .wait time := ha
      split
      · rename_i hsome
        cases hsome
        split
        · exact hleave _ hinterrupt rfl
        · exact .through (List.append_nil _).symm rfl
      · contradiction
      · rename_i hsome
        cases hsome
        exact .through (List.append_nil _).symm rfl
      · contradiction

theorem act_carried (o : Output σ) (m : Option Moment) (r : Run σ) (a : Action) :
    Carried r [a] (r.act o m a) := by
  cases a with
  | ask q =>
    obtain ⟨hlog, -, hnow, -, -⟩ := mark_spec r m (.asked q) (by simp)
    exact .through hlog hnow
  | wait time =>
    cases time with
    | zero => exact .through (List.append_nil _).symm rfl
    | succ time => exact wait_carried o m r (some (time + 1)) rfl rfl
  | stall => exact wait_carried o m r none rfl rfl
  | emit e =>
    obtain ⟨hlog, -, hnow, -, -⟩ := mark_spec r m (.emitted r.now e) (by simp)
    unfold Run.act Run.emit
    dsimp only
    split
    · exact .through hlog hnow
    · exact .refused (List.nil_append [Action.emit e]).symm hlog
  | settle b => exact .through (List.append_nil _).symm rfl
  | note n => exact .through (log_record r _ (by simp)) rfl

theorem actAll_goOn {a : Action} (h : r.act o m a = (.goOn, r')) (as : List Action) :
    r.actAll o m (a :: as) = r'.actAll o m as := by
  simp only [Run.actAll, h]

theorem actAll_stop {a : Action} {next : Next} (h : r.act o m a = (next, r')) (hn : next ≠ .goOn)
    (as : List Action) : r.actAll o m (a :: as) = (next, r') := by
  unfold Run.actAll
  split
  · rename_i hact
    rw [h] at hact
    cases hact
    exact absurd rfl hn
  · exact h

theorem actAll_carried (o : Output σ) (m : Option Moment) (r : Run σ) (as : List Action) :
    Carried r as (r.actAll o m as) := by
  induction as generalizing r with
  | nil => exact .through (List.append_nil _).symm rfl
  | cons a as ih =>
    have ha := act_carried o m r a
    unfold Run.actAll
    split
    · rename_i r' hact
      rw [hact] at ha
      exact ha.append (ih r')
    · rename_i hstop
      generalize r.act o m a = acted at ha hstop
      obtain ⟨next, r'⟩ := acted
      exact ha.stop (fun hn => hstop r' (by rw [hn])) as

/-! ## Refusals -/

/-- The output of a run refused the last event, and took all that the run emitted before. -/
def Run.WasRefused (o : Output σ) (new : σ) (e : Event) (x : OutputError) (r : Run σ) : Prop :=
  ∃ es s, o.Took new es s ∧ r.events = es ++ [e] ∧ o.emit s e = (.error x, r.output)

private theorem act_refused {a : Action} {x : OutputError} (h : r.Took o new)
    (ha : r.act o m a = (.refused x, r')) :
    ∃ e before t, r'.WasRefused o new e x ∧ r'.log = before ++ [.emitted t e] := by
  have hcarried := act_carried o m r a
  rw [ha] at hcarried
  cases hcarried with
  | @refused done rest e _ _ has hlog =>
    obtain ⟨rfl, rfl⟩ := eq_of_single has
    have hlog' : r'.log = r.log ++ [.emitted r.now e] := hlog
    refine ⟨e, r.log, r.now, ⟨r.events, r.output, h, ?_, ?_⟩, hlog'⟩
    · rw [Run.events, hlog', List.filterMap_append]
      rfl
    · cases hr : o.emit r.output e with
      | mk result output =>
        simp only [Run.act, Run.emit, hr] at ha
        cases result with
        | ok => cases ha
        | error x' =>
          cases ha
          rfl

theorem actAll_refused {x : OutputError} (h : r.Took o new)
    (ha : r.actAll o m as = (.refused x, r')) :
    ∃ e before t, r'.WasRefused o new e x ∧ r'.log = before ++ [.emitted t e] := by
  induction as generalizing r with
  | nil => cases ha
  | cons a as ih =>
    unfold Run.actAll at ha
    split at ha
    · rename_i r₁ hact
      have h₁ := act_took (m := m) h a (by simp [hact])
      rw [hact] at h₁
      exact ih h₁ ha
    · exact act_refused h ha

/-! ## Sessions -/

/-- A wait leaves the journal as it is. When it is over, its time has passed or the session was
interrupted. -/
theorem wait_spec (o : Output σ) (m : Option Moment) (r : Run σ) (time : Nat) :
    let waited := r.act o m (.wait time)
    waited.2.log = r.log ∧ (waited.2.interrupted = false → waited.2.now = r.now + time) ∧
      (waited.1 = .goOn ∨ waited.1 = .detach ∧ 0 < time ∧ waited.2.interrupted = true) := by
  have hcarried := act_carried o m r (.wait time)
  generalize r.act o m (.wait time) = acted at hcarried
  cases hcarried with
  | through hlog hnow => exact ⟨hlog.trans (List.append_nil _), fun _ => hnow, .inl rfl⟩
  | refused has => cases (eq_of_single has).2
  | left has ha hlog hi =>
    obtain ⟨rfl, rfl⟩ := eq_of_single has
    exact ⟨hlog.trans (List.append_nil _), fun hn => absurd hi (Bool.eq_false_iff.1 hn),
      .inr ⟨rfl, by simpa [Action.isWait] using ha, hi⟩⟩
  | stuck has => cases (eq_of_single has).2

/-- The ending of a session with a tick, if it does not go on. -/
def Verdict.ending? : Verdict → Option Ending
  | .goOn _ => none
  | .finish => some (.done (.ok ()))
  | .fail f => some (.done (.error f))
  | .never => some .unfinished

/-- How a session that begins the tick numbered `k` ends with it, up to the close of its output. -/
inductive Halt (o : Output σ) (m : Option Moment) (id : String) (script : Script) (k : Nat)
    (w : Watch) (r : Run σ) : Ending × Run σ → Prop
  | unfinished : Halt o m id script k w r (.unfinished, r)
  | detached : r.interrupted = true → Halt o m id script k w r (detach o m id r)
  | left {r' : Run σ} : r.interrupted = false →
      r.actAll o m (w.tick id (script k) r.now).actions = (.detach, r') →
      Halt o m id script k w r (detach o m id r')
  | refused {r' : Run σ} {x : OutputError} : r.interrupted = false →
      r.actAll o m (w.tick id (script k) r.now).actions = (.refused x, r') →
      Halt o m id script k w r (.done (.error (.output x)), r')
  | stuck {r' : Run σ} : r.interrupted = false →
      r.actAll o m (w.tick id (script k) r.now).actions = (.stuck, r') →
      Halt o m id script k w r (.unfinished, r')
  | ended {r' : Run σ} {e : Ending} : r.interrupted = false →
      r.actAll o m (w.tick id (script k) r.now).actions = (.goOn, r') →
      (w.tick id (script k) r.now).verdict.ending? = some e → Halt o m id script k w r (e, r')

/-- How a session goes on from the tick numbered `k`: it ends with it, or carries it out and goes on
from the next one after a pause. -/
inductive Passage (o : Output σ) (options : Options) (m : Option Moment) (id : String)
    (script : Script) : Nat → Watch → Run σ → Ending × Run σ → Prop
  | halt {k : Nat} {w : Watch} {r : Run σ} {result : Ending × Run σ} :
      Halt o m id script k w r result → Passage o options m id script k w r result
  | next {k : Nat} {w w' : Watch} {r r' : Run σ} {result : Ending × Run σ} : r.interrupted = false →
      r.actAll o m (w.tick id (script k) r.now).actions = (.goOn, r') →
      (w.tick id (script k) r.now).verdict = .goOn w' →
      Passage o options m id script (k + 1) w' (r'.act o m (.wait options.interval)).2 result →
      Passage o options m id script k w r result

/-- Any number of ticks is a passage. -/
theorem ticks_passage (o : Output σ) (options : Options) (m : Option Moment) (id : String)
    (script : Script) (count k : Nat) (w : Watch) (r : Run σ) :
    Passage o options m id script k w r (ticks o options m id script count k w r) := by
  induction count generalizing k w r with
  | zero => exact .halt .unfinished
  | succ count ih =>
    rw [ticks_succ]
    split
    · rename_i hi
      exact .halt (.detached hi)
    · rename_i hi
      have hi : r.interrupted = false := by simpa using hi
      dsimp only
      cases hact : r.actAll o m (w.tick id (script k) r.now).actions with
      | mk next r' =>
        cases next with
        | detach => exact .halt (.left hi hact)
        | refused x => exact .halt (.refused hi hact)
        | stuck => exact .halt (.stuck hi hact)
        | goOn =>
          dsimp only [afterActions]
          split
          · rename_i hv
            exact .halt (.ended hi hact (by rw [hv]; rfl))
          · rename_i f hv
            exact .halt (.ended hi hact (by rw [hv]; rfl))
          · rename_i hv
            exact .halt (.ended hi hact (by rw [hv]; rfl))
          · rename_i w' hv
            obtain ⟨-, -, hnext⟩ := wait_spec o m r' options.interval
            refine .next hi hact hv ?_
            generalize r'.act o m (.wait options.interval) = paused at hnext
            obtain ⟨next, r₂⟩ := paused
            rcases hnext with rfl | ⟨rfl, -, hi₂⟩
            · exact ih (k + 1) w' r₂
            · exact .halt (.detached hi₂)

/-- What a session begins its first tick with. -/
theorem begin_spec (new : σ) (m : Option Moment) (id : String) :
    let r := (Run.begin new m).record (.noted (.watching id))
    r.log = [.noted (.watching id)] ∧ r.now = 0 ∧ r.output = new := by
  have hbegin : (Run.begin new m).log = [] ∧ (Run.begin new m).now = 0 ∧
      (Run.begin new m).output = new := by
    unfold Run.begin
    dsimp only
    split <;> exact ⟨rfl, rfl, rfl⟩
  refine ⟨?_, hbegin.2⟩
  rw [log_record _ _ (by simp), hbegin.1]
  rfl

/-- Closing an output leaves the journal of a session as it is. -/
theorem finish_spec (o : Output σ) (own : Ending × Run σ) :
    (finish o own).2.log = own.2.log ∧ (finish o own).2.interrupted = own.2.interrupted := by
  obtain ⟨e, r⟩ := own
  cases e <;> exact ⟨rfl, rfl⟩

/-- A failure stays the result of a session when its output is closed. -/
theorem finish_failed (o : Output σ) {own : Ending × Run σ} {f : Failure}
    (h : own.1 = .done (.error f)) : (finish o own).1 = .done (.error f) := by
  obtain ⟨e, r⟩ := own
  obtain rfl : e = .done (.error f) := h
  rfl

end Rollout.Session
