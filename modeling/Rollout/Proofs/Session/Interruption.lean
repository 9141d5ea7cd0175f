import Rollout.Proofs.Session.Course

/-!
An interruption only truncates a session. Up to the place where it is noticed, an interrupted
session does what the same session does without interruption; then it detaches, which succeeds,
and closes its output (`run_interrupted`).
-/

namespace Rollout.Session

/-- What a session does before the first place where it waits when or after the moment comes, and
the time at which it notices its interruption there. It waits at its start, too. -/
def cut? (m : Moment) (id : String) (ds : List Deed) : Option (List Deed × Nat) :=
  if m = .start then some ([watching id], 0)
  else (stop? (some m) [] ds).map fun (part, d) => (part, noticedAt (some m) d.time)

/-- What the journal says of a session that detaches. -/
def detachEntries (id : String) (part : List Deed) (now : Nat) : List Entry :=
  .noted (.detached id (lastVerdict part)) ::
    if lastVerdict part then [] else (detachMessages id).map (.emitted now)

/-- The events of a session that detaches: without convergence it says that the work goes on. -/
def detachEvents (id : String) (part : List Deed) : List Event :=
  if lastVerdict part then [] else detachMessages id

variable {o : Output σ} {new : σ} {m : Option Moment}

/-! ## Detaching -/

/-- What takes no time and asks nothing is done whether the session was interrupted or not. -/
private theorem act_aside (ho : o.TakesAll new) (m : Option Moment) {a : Action}
    (ha : a.isAside = true) {r : Run σ} {es : List Event} (hf : o.Fed new es r.output) :
    ∃ r', r.act o m a = (.goOn, r') ∧ r'.now = r.now + a.span ∧
      r'.log = r.log ++ entriesOf [⟨r.now, a⟩] ∧
      o.Fed new (es ++ eventsOf [⟨r.now, a⟩]) r'.output := by
  cases a with
  | emit e =>
    obtain ⟨hlog, -, hnow, -, -⟩ := mark_spec r m (.emitted r.now e) (by simp)
    refine ⟨{ r.mark m (.emitted r.now e) with output := (o.emit r.output e).2 },
      ?_, hnow, hlog, hf.emit e⟩
    simp only [Run.act, Run.emit, ho _ _ e hf]
  | settle b =>
    refine ⟨{ r with converged := b }, rfl, rfl, (List.append_nil _).symm, ?_⟩
    rw [show eventsOf [⟨r.now, .settle b⟩] = [] from rfl, List.append_nil]
    exact hf
  | note n =>
    refine ⟨r.record (.noted n), rfl, rfl, log_record r _ (by simp), ?_⟩
    rw [show eventsOf [⟨r.now, .note n⟩] = [] from rfl, List.append_nil]
    exact hf
  | _ => cases ha

private theorem actAll_aside (ho : o.TakesAll new) (m : Option Moment) {as : List Action}
    (ha : as.all Action.isAside = true) {r : Run σ} {es : List Event}
    (hf : o.Fed new es r.output) :
    ∃ r', r.actAll o m as = (.goOn, r') ∧ r'.log = r.log ++ entriesOf (deedsFrom r.now as) ∧
      o.Fed new (es ++ eventsOf (deedsFrom r.now as)) r'.output := by
  induction as generalizing r es with
  | nil => exact ⟨r, rfl, by simp [deedsFrom, entriesOf], by simpa [deedsFrom, eventsOf] using hf⟩
  | cons a as ih =>
    rw [List.all_cons, Bool.and_eq_true] at ha
    obtain ⟨r₁, hact, hnow, hlog, hf₁⟩ := act_aside ho m ha.1 hf
    obtain ⟨r₂, hall, hlog₂, hf₂⟩ := ih ha.2 hf₁
    have hsplit : deedsFrom r.now (a :: as) = [⟨r.now, a⟩] ++ deedsFrom r₁.now as := by
      rw [hnow]
      rfl
    refine ⟨r₂, by simp only [Run.actAll, hact, hall], ?_, ?_⟩
    · rw [hlog₂, hlog, hsplit, entriesOf_append, List.append_assoc]
    · rw [hsplit, eventsOf_append, ← List.append_assoc]
      exact hf₂

/-- Detaching succeeds. -/
private theorem detach_ok (ho : o.TakesAll new) (m : Option Moment) (id : String) {r : Run σ}
    {part : List Deed} {es : List Event} (hf : o.Fed new es r.output)
    (hv : r.converged = lastVerdict part) :
    ∃ r', detach o m id r = (.done (.ok ()), r') ∧
      r'.log = r.log ++ detachEntries id part r.now ∧
      o.Fed new (es ++ detachEvents id part) r'.output := by
  obtain ⟨r', hall, hlog, hf'⟩ := actAll_aside ho m (detach_asides id r.converged) hf
  refine ⟨r', by simp only [detach, hall, Next.ending], ?_, ?_⟩
  · rw [hlog, detachEntries, ← hv]
    cases r.converged <;> rfl
  · rw [detachEvents, ← hv]
    cases hr : r.converged <;> rw [hr] at hf' <;> exact hf'

/-! ## Whole sessions -/

/-- Where closing succeeds it changes neither the ending nor the journal. -/
private theorem finish_ok {o : Output σ} {e : Ending} {r : Run σ}
    (hc : (o.close r.output).1 = .ok ()) :
    (finish o (e, r)).1 = e ∧ (finish o (e, r)).2.log = r.log ∧
      (e ≠ .unfinished → (finish o (e, r)).2.output = (o.close r.output).2) := by
  cases e with
  | unfinished => exact ⟨rfl, rfl, fun h => absurd rfl h⟩
  | done result =>
    refine ⟨?_, rfl, fun _ => rfl⟩
    cases result <;> simp [finish, hc]

private theorem finish_output (o : Output σ) {e : Ending} {r r' : Run σ}
    (h : r.output = r'.output) :
    (finish o (e, r)).2.output = (finish o (e, r')).2.output := by
  cases e <;> simp [finish, h]

private theorem Did.close_ok {past : List Deed} {r : Run σ} (hc : o.ClosesAlways new)
    (h : Did o new m past r) : (o.close r.output).1 = .ok () := by
  rw [h.output]
  exact hc _ _ (fed_fedBy o new past)

/-- A session that was cut detaches and closes its output. -/
private theorem cut_session (ho : o.TakesAll new) (hc : o.ClosesAlways new) (id : String)
    (part : List Deed) {r : Run σ} (hlog : r.log = entriesOf part)
    (hf : o.Fed new (eventsOf part) r.output) (hv : r.converged = lastVerdict part) :
    let cut := finish o (detach o m id r)
    cut.1 = .done (.ok ()) ∧ cut.2.log = entriesOf part ++ detachEntries id part r.now ∧
      o.ClosedAfter new (eventsOf part ++ detachEvents id part) cut.2.output := by
  obtain ⟨r', hdet, hlog', hf'⟩ := detach_ok ho m id hf hv
  obtain ⟨he, hl, hout⟩ := finish_ok (e := .done (.ok ())) (hc _ _ hf')
  rw [hdet]
  exact ⟨he, by rw [hl, hlog', hlog], r'.output, hf', hout (by simp)⟩

private theorem stop?_spec {m : Option Moment} {past ds part : List Deed} {d : Deed}
    (h : stop? m past ds = some (part, d)) : ∃ rest, past ++ ds = part ++ d :: rest := by
  induction ds generalizing past with
  | nil => cases h
  | cons e ds ih =>
    rw [stop?] at h
    split at h
    · cases h
      exact ⟨ds, rfl⟩
    · simpa using ih h

/-- A session that nothing interrupts ends as its course does, where its output closes. -/
theorem run_ending (ho : o.TakesAll new) (hc : o.ClosesAlways new) (options : Options)
    (id : String) (script : Script) (count : Nat) :
    let free := run o new options none id script count
    free.1 = (wholeCourse options id script count).2 ∧ free.2.interrupted = false := by
  obtain ⟨r, hd, hrun⟩ := run_uninterrupted ho options id script count
  dsimp only
  rw [hrun]
  refine ⟨(finish_ok (hd.close_ok hc)).1, ?_⟩
  cases (wholeCourse options id script count).2 <;> exact hd.interrupted

/-- An interruption only truncates a session. Either the session ends before the first place where
it waits when or after the moment comes, and the interruption changes nothing; or it does what it
would have done up to that place, and then detaches with success. Its output is closed once. -/
theorem run_interrupted (ho : o.TakesAll new) (hc : o.ClosesAlways new) (options : Options)
    (hi : 0 < options.interval) (id : String) (script : Script) (count : Nat) (m : Moment) :
    let whole := wholeCourse options id script (count + 1)
    let free := run o new options none id script (count + 1)
    let cut := run o new options (some m) id script (count + 1)
    free.1 = whole.2 ∧ free.2.log = entriesOf whole.1 ∧
      match cut? m id whole.1 with
      | none => cut.1 = free.1 ∧ cut.2.log = free.2.log ∧ cut.2.output = free.2.output ∧
          (cut.1 ≠ .unfinished → o.ClosedAfter new (eventsOf whole.1) cut.2.output)
      | some (part, now) => part <+: whole.1 ∧ cut.1 = .done (.ok ()) ∧
          cut.2.log = entriesOf part ++ detachEntries id part now ∧
          o.ClosedAfter new (eventsOf part ++ detachEvents id part) cut.2.output := by
  dsimp only
  obtain ⟨r, hd, hfree⟩ := run_uninterrupted ho options id script (count + 1)
  obtain ⟨he, hlog, -⟩ := finish_ok (e := (wholeCourse options id script (count + 1)).2)
    (hd.close_ok hc)
  refine ⟨hfree ▸ he, hfree ▸ hlog.trans hd.log, ?_⟩
  by_cases hm : m = .start
  · subst hm
    have hcut := cut_session (m := some .start) (r := (Run.begin new (some .start)).record
      (.noted (.watching id))) ho hc id [watching id] rfl .new rfl
    simp only [cut?, if_true]
    exact ⟨⟨_, rfl⟩, hcut⟩
  · obtain ⟨⟨e, r'⟩, hrun, hf⟩ := run_follows (m := some m) ho options id script (count + 1)
      (.inr hi) (by simpa using hm)
    have hw : stop? (some m) [] (wholeCourse options id script (count + 1)).1 =
        stop? (some m) [watching id]
          (course options id script (count + 1) 0 (.start options.monitor) 0).1 := by
      simp [wholeCourse, stop?, watching, Moment.stops, Deed.isWait]
    rw [cut?, if_neg hm, hw]
    cases hs : stop? (some m) [watching id]
        (course options id script (count + 1) 0 (.start options.monitor) 0).1 with
    | none =>
      rw [Follows, hs] at hf
      obtain ⟨rfl, hd'⟩ := hf
      obtain ⟨he', hlog', hout'⟩ := finish_ok
        (e := (course options id script (count + 1) 0 (.start options.monitor) 0).2)
        (hd'.close_ok hc)
      rw [hrun, hfree]
      refine ⟨he'.trans he.symm, ?_, finish_output o (hd'.output.trans hd.output.symm), ?_⟩
      · rw [hlog', hlog, hd.log, hd'.log]
        rfl
      · intro hu
        refine ⟨r'.output, ?_, hout' (he' ▸ hu)⟩
        rw [hd'.output]
        exact fed_fedBy o new _
    | some x =>
      obtain ⟨part, d⟩ := x
      rw [Follows, hs] at hf
      obtain ⟨r₁, hl, hdet⟩ := hf
      rw [hrun, hdet, Option.map_some]
      obtain ⟨rest, hsplit⟩ := stop?_spec hs
      have hf : o.Fed new (eventsOf part) r₁.output := by
        rw [hl.output]
        exact (fed_fedBy o new part).rest
      have hcut := cut_session (m := some m) ho hc id part hl.log hf hl.converged
      rw [hl.now] at hcut
      exact ⟨⟨d :: rest, hsplit.symm⟩, hcut⟩

/-- A session that is interrupted while it waits for the tasks of its first tick. -/
theorem run_interrupted_in_query :
    let service : Service := ⟨"web", ⟨"web", .ofReplicas 2, none⟩, some ⟨.rollbackStarted, "why"⟩⟩
    let frame : Frame := ⟨.prompt service, ⟨50, some (.ok [])⟩, .prompt [], 0⟩
    let cut := run Output.recording .empty ⟨200, 5000⟩ (some (.time 30)) "web" (fun _ => frame) 1
    Output.recording.TakesAll .empty ∧ Output.recording.ClosesAlways .empty ∧ 0 < 200 ∧
      cut.1 = .done (.ok ()) ∧
      cut.2.log = [.noted (.watching "web"), .asked (.service "web"),
        .emitted 0 (.act rollbackId "why"), .asked (.tasks (.current "web")),
        .noted (.detached "web" false),
        .emitted 30 (.message "Operation continuing in background."),
        .emitted 30 (.message "Use `docker service ps web` to check progress.")] := by
  intro service frame cut
  have ho : Output.recording.TakesAll .empty := fun _ _ _ _ => rfl
  have hc : Output.recording.ClosesAlways .empty := fun _ _ _ => rfl
  have h := run_interrupted ho hc ⟨200, 5000⟩ (by decide) "web" (fun _ => frame) 0 (.time 30)
  have hcut : cut? (.time 30) "web" (wholeCourse ⟨200, 5000⟩ "web" (fun _ => frame) 1).1 =
      some ([watching "web", ⟨0, .ask (.service "web")⟩, ⟨0, .wait 0⟩,
        ⟨0, .emit (.act rollbackId "why")⟩, ⟨0, .ask (.tasks (.current "web"))⟩], 30) := rfl
  simp only [Nat.zero_add, hcut] at h
  exact ⟨ho, hc, by decide, h.2.2.2.1, h.2.2.2.2.1⟩

end Rollout.Session
