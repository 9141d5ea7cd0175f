import Rollout.Proofs.Session.Tick

/-!
The course of a session: the deeds of its ticks and of the pauses between them, as they follow on
each other when nothing interrupts them. A session whose output takes all events keeps to its
course to the end, or up to the place where an interruption stops it (`run_follows`); without an
interruption it goes to the end (`run_uninterrupted`).
-/

namespace Rollout.Session

/-- The deeds of a session from the tick numbered `k` on, for at most so many ticks, and how they
end. -/
def course (options : Options) (id : String) (script : Script) :
    (count : Nat) → (k : Nat) → Watch → (now : Nat) → List Deed × Ending
  | 0, _, _, _ => ([], .unfinished)
  | count + 1, k, w, now =>
    let tick := w.tick id (script k) now
    let ds := deedsFrom now tick.actions
    match tick.verdict with
    | .finish => (ds, .done (.ok ()))
    | .fail f => (ds, .done (.error f))
    | .never => (ds, .unfinished)
    | .goOn w =>
      let done := timeAfter now tick.actions
      let rest := course options id script count (k + 1) w (done + options.interval)
      (ds ++ ⟨done, .wait options.interval⟩ :: rest.1, rest.2)

/-- Every session begins with a note. -/
def watching (id : String) : Deed := ⟨0, .note (.watching id)⟩

/-- The course of a whole session. -/
def wholeCourse (options : Options) (id : String) (script : Script) (count : Nat) :
    List Deed × Ending :=
  let c := course options id script count 0 (.start options.monitor) 0
  (watching id :: c.1, c.2)

/-! ## Keeping to the course -/

variable {o : Output σ} {new : σ} {m : Option Moment} {past : List Deed} {r : Run σ}

private theorem actAll_append (o : Output σ) (m : Option Moment) (r : Run σ) (as bs : List Action) :
    r.actAll o m (as ++ bs) =
      match r.actAll o m as with
      | (.goOn, r) => r.actAll o m bs
      | stop => stop := by
  induction as generalizing r with
  | nil => rfl
  | cons a as ih =>
    simp only [List.cons_append, Run.actAll]
    cases hact : r.act o m a with
    | mk next r' => cases next <;> simp [ih]

/-- A stall that does not stop the session holds it for ever. -/
private theorem Did.stall_on (h : Did o new m past r)
    (hs : m.any (·.stops past ⟨r.now, .stall⟩) = false) :
    r.act o m .stall = (.stuck, { r with output := o.rest r.output }) := by
  have hi := h.interrupted
  cases m with
  | none => simp_all [Run.act, Run.wait]
  | some m =>
    cases m <;> simp_all [Run.act, Run.wait, Moment.stops, Moment.comesBy, Deed.isWait,
      Deed.lastsPast]

theorem Did.tick (ho : o.TakesAll new) (h : Did o new m past r) {t : Tick} (ht : t.Sound)
    (hs : stop? m past (deedsFrom r.now t.actions) = none) :
    ∃ r', r.actAll o m t.actions = (if t.verdict = .never then .stuck else .goOn, r') ∧
      r'.now = timeAfter r.now t.actions ∧ Did o new m (past ++ deedsFrom r.now t.actions) r' := by
  rcases ht with ⟨hv, ha⟩ | ⟨hv, as, ha, has⟩
  · rw [if_neg hv]
    exact h.actAll ho ha hs
  · rw [has, deedsFrom_append, stop?_append, Option.or_eq_none_iff] at hs
    obtain ⟨hs₁, hs₂⟩ := hs
    obtain ⟨r₁, hall, hnow, h₁⟩ := h.actAll ho ha hs₁
    have hstall : m.any (·.stops (past ++ deedsFrom r.now as) ⟨r₁.now, .stall⟩) = false := by
      rw [hnow]
      simpa [deedsFrom, stop?] using hs₂
    refine ⟨{ r₁ with output := o.rest r₁.output }, ?_, ?_, ?_⟩
    · rw [has, actAll_append, hall, if_pos hv]
      simp only [Run.actAll, h₁.stall_on hstall]
    · rw [has, timeAfter_append]
      exact hnow
    · rw [has, deedsFrom_append, ← List.append_assoc, ← hnow]
      exact h₁.silent ⟨r₁.now, .stall⟩ rfl rfl rfl rfl rfl

theorem Did.tick_stopped (ho : o.TakesAll new) (h : Did o new m past r) {t : Tick} (ht : t.Sound)
    {part : List Deed} {d : Deed}
    (hs : stop? m past (deedsFrom r.now t.actions) = some (part, d)) :
    ∃ r', r.actAll o m t.actions = (.detach, r') ∧ Left o new m part d r' := by
  rcases ht with ⟨-, ha⟩ | ⟨-, as, ha, has⟩
  · exact h.actAll_stopped ho ha hs
  · rw [has, deedsFrom_append, stop?_append] at hs
    rw [has, actAll_append]
    cases hs₁ : stop? m past (deedsFrom r.now as) with
    | some x =>
      rw [hs₁, Option.some_or] at hs
      obtain ⟨r', hall, hl⟩ := h.actAll_stopped ho ha (hs₁.trans hs)
      exact ⟨r', by rw [hall], hl⟩
    | none =>
      obtain ⟨r₁, hall, hnow, h₁⟩ := h.actAll ho ha hs₁
      rw [hs₁, Option.none_or, ← hnow] at hs
      simp only [deedsFrom, stop?] at hs
      split at hs
      · rename_i hd
        cases hs
        obtain ⟨r', hact, hl⟩ := h₁.stopped hd
        exact ⟨r', by rw [hall]; simp only [Run.actAll, hact], hl⟩
      · cases hs

/-- How a session goes that has done some deeds and has a course before it: along the course to
its end, or to the place where it is stopped and detaches. -/
def Follows (o : Output σ) (new : σ) (m : Option Moment) (id : String) (past : List Deed)
    (c : List Deed × Ending) (result : Ending × Run σ) : Prop :=
  match stop? m past c.1 with
  | none => result.1 = c.2 ∧ Did o new m (past ++ c.1) result.2
  | some (part, d) => ∃ r, Left o new m part d r ∧ result = detach o m id r

theorem Follows.of_stopped {id : String} {c : List Deed × Ending} {result : Ending × Run σ}
    {part : List Deed} {d : Deed} (hs : stop? m past c.1 = some (part, d))
    (hl : Left o new m part d r) (hr : result = detach o m id r) :
    Follows o new m id past c result := by
  rw [Follows, hs]
  exact ⟨r, hl, hr⟩

theorem Follows.of_done {id : String} {c : List Deed × Ending} {result : Ending × Run σ}
    (hs : stop? m past c.1 = none) (he : result.1 = c.2) (hd : Did o new m (past ++ c.1) result.2) :
    Follows o new m id past c result := by
  rw [Follows, hs]
  exact ⟨he, hd⟩

/-- What follows on deeds that did not stop the session. -/
theorem Follows.prepend {id : String} {ds es : List Deed} {e : Ending} {result : Ending × Run σ}
    (hs : stop? m past ds = none) (h : Follows o new m id (past ++ ds) (es, e) result) :
    Follows o new m id past (ds ++ es, e) result := by
  simpa only [Follows, stop?_append, hs, Option.none_or, List.append_assoc] using h

/-- The moment does not come while a run waits that is not stopped. -/
private theorem Did.not_interrupted (h : Did o new m (past ++ [d]) r) (he : d.entry? = none)
    (hw : m = none ∨ d.isWait = true) (hs : m.any (·.stops past d) = false) :
    r.interrupted = false := by
  have hent : entriesOf (past ++ [d]) = entriesOf past := by
    rw [entriesOf_append]
    simp [entriesOf, he]
  rw [h.interrupted, hent]
  cases m with
  | none => rfl
  | some m => cases m <;> simp_all [Moment.stops, Moment.comesBy, Moment.shownBy]

/-- The pause between two ticks. -/
private theorem follows_pause {id : String} {interval : Nat} (ho : o.TakesAll new)
    (h : Did o new m past r) (hp : m = none ∨ 0 < interval) {c : List Deed × Ending}
    {rest : Run σ → Ending × Run σ}
    (hrest : ∀ r', r'.now = r.now + interval → r'.interrupted = false →
      Did o new m (past ++ [⟨r.now, .wait interval⟩]) r' →
      Follows o new m id (past ++ [⟨r.now, .wait interval⟩]) c (rest r')) :
    Follows o new m id past (⟨r.now, .wait interval⟩ :: c.1, c.2)
      (afterActions o m id (r.act o m (.wait interval)) rest) := by
  cases hs : m.any (·.stops past ⟨r.now, .wait interval⟩) with
  | true =>
    obtain ⟨r', hact, hl⟩ := h.stopped hs
    refine .of_stopped (by simp only [stop?, hs, if_true]) hl ?_
    simp only [afterActions, hact]
  | false =>
    obtain ⟨r', hact, hnow, h'⟩ := h.act ho (by simp) hs
    have hi : r'.interrupted = false :=
      h'.not_interrupted rfl (hp.imp_right (by simp [Deed.isWait])) hs
    have hstop : stop? m past [⟨r.now, .wait interval⟩] = none := by simp [stop?, hs]
    rw [hact]
    exact Follows.prepend hstop (hrest r' hnow hi h')

theorem ticks_follow {options : Options} (id : String) (script : Script) (ho : o.TakesAll new)
    (hp : m = none ∨ 0 < options.interval) (count k : Nat) (w : Watch)
    (h : Did o new m past r) (hi : r.interrupted = false) :
    Follows o new m id past (course options id script count k w r.now)
      (ticks o options m id script count k w r) := by
  -- The induction is on the ticks that are left; each begins with a run that is not interrupted.
  induction count generalizing past r k w with
  | zero => exact .of_done rfl rfl (by simpa [course, ticks_zero] using h)
  | succ count ih =>
    have ht := w.tick_sound id (script k) r.now
    simp only [ticks_succ, hi, course, Bool.false_eq_true, if_false]
    generalize w.tick id (script k) r.now = t at ht ⊢
    cases hs : stop? m past (deedsFrom r.now t.actions) with
    | some x =>
      obtain ⟨part, d⟩ := x
      obtain ⟨r', hall, hl⟩ := h.tick_stopped ho ht hs
      rw [hall]
      refine .of_stopped ?_ hl rfl
      cases t.verdict with
      | goOn w => simp only [stop?_append, hs, Option.some_or]
      | _ => exact hs
    | none =>
      obtain ⟨r₁, hall, hnow, h₁⟩ := h.tick ho ht hs
      rw [hall]
      cases hv : t.verdict with
      | finish => exact .of_done hs rfl h₁
      | fail f => exact .of_done hs rfl h₁
      | never => exact .of_done hs rfl h₁
      | goOn w =>
        rw [← hnow]
        refine Follows.prepend hs (follows_pause ho h₁ hp ?_)
        intro r₂ hnow₂ hi₂ h₂
        rw [← hnow₂]
        exact ih (k + 1) w h₂ hi₂

/-! ## Whole sessions -/

private theorem begin_did (o : Output σ) (new : σ) (m : Option Moment) (id : String) :
    Did o new m [watching id] ((Run.begin new m).record (.noted (.watching id))) := by
  cases m with
  | none => exact ⟨rfl, rfl, rfl, rfl⟩
  | some m =>
    cases m with
    | query q n => refine ⟨rfl, rfl, rfl, ?_⟩; cases n <;> rfl
    | event n => refine ⟨rfl, rfl, rfl, ?_⟩; cases n <;> rfl
    | _ => exact ⟨rfl, rfl, rfl, rfl⟩

/-- A session that is not interrupted before it starts follows its course. -/
theorem run_follows (ho : o.TakesAll new) (options : Options) (id : String)
    (script : Script) (count : Nat) (hp : m = none ∨ 0 < options.interval)
    (hm : m ≠ some .start) :
    ∃ result, run o new options m id script count = finish o result ∧
      Follows o new m id [watching id]
        (course options id script count 0 (.start options.monitor) 0) result := by
  refine ⟨_, rfl, ?_⟩
  have hd := begin_did o new m id
  have hr : ((Run.begin new m).record (.noted (.watching id))).interrupted = false ∧
      ((Run.begin new m).record (.noted (.watching id))).now = 0 := by
    simp [Run.begin, hm, Run.record]
  simpa only [hr.2] using ticks_follow id script ho hp count 0 (.start options.monitor) hd hr.1

/-- A session that nothing interrupts goes along its course and closes its output. -/
theorem run_uninterrupted (ho : o.TakesAll new) (options : Options) (id : String)
    (script : Script) (count : Nat) :
    ∃ r, Did o new none (wholeCourse options id script count).1 r ∧
      run o new options none id script count =
        finish o ((wholeCourse options id script count).2, r) := by
  obtain ⟨⟨e, r⟩, hrun, hf⟩ := run_follows (m := none) ho options id script count
    (.inl rfl) (by simp)
  rw [Follows, stop?_none] at hf
  obtain ⟨rfl, hd⟩ := hf
  exact ⟨r, hd, hrun⟩

end Rollout.Session
