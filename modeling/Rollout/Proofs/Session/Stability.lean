import Mathlib.Algebra.Order.Floor.Div
import Rollout.Proofs.Session.Alike
import Rollout.Proofs.Session.Interruption
import Rollout.Proofs.Session.Opening

/-!
How a session ends whose service stays converged while its update goes on. With answers that take
no time, each tick finds the stretch longer by one pause; so the session says that the service
converged with the first tick, behind the one that began the stretch, at which the pauses make up
the window (`run_stable`).
-/

namespace Rollout.Session

/-- Answers that take no time. -/
structure Scene.IsPrompt (s : Scene) : Prop where
  service : s.service.delay = 0
  tasks : s.tasks.delay = 0
  nodes : s.nodes.delay = 0
  lag : s.lag = 0

/-- The pauses that make up a window, one at least. -/
def pausesFor (window interval : Nat) : Nat := max 1 (window ⌈/⌉ interval)

theorem lt_pausesFor {i window interval : Nat} (hp : 0 < interval) :
    i < pausesFor window interval ↔ i = 0 ∨ i * interval < window := by
  rw [pausesFor, lt_max_iff, Nat.lt_one_iff, ← not_le, ceilDiv_le_iff_le_mul hp, not_le,
    Nat.mul_comm]

/-- A service that converges at tick `m` and stays so for `n` ticks, with a window that it keeps and
an update that goes on. -/
structure History.Steady (h : History) (m n window : Nat) : Prop where
  prompt : ∀ k, (h.scenes k).IsPrompt
  ongoing : ∀ k, isOngoing (h.service k).updateStatus = true
  window : ∀ k, m ≤ k → h.window k = window
  before : h.convergedBefore m = false
  after : ∀ k, m ≤ k → k < m + n → h.converged k = true

variable {h : History} {m n i k window : Nat}

/-! ## The times of prompt answers -/

theorem History.begins_prompt (hprompt : ∀ k, (h.scenes k).IsPrompt) (k : Nat) :
    h.begins k = k * h.options.interval := by
  induction k with
  | zero => rw [begins, Nat.zero_mul]
  | succ k ih =>
    obtain ⟨hservice, htasks, hnodes, -⟩ := hprompt k
    rw [begins, ih, hservice, htasks, hnodes, Nat.succ_mul]
    rfl

theorem History.read_prompt (hprompt : ∀ k, (h.scenes k).IsPrompt) (k : Nat) :
    h.read k = k * h.options.interval := by
  rw [read, begins_prompt hprompt, (hprompt k).service, Nat.add_zero]

theorem History.updated_prompt (hprompt : ∀ k, (h.scenes k).IsPrompt) (k : Nat) :
    h.updated k = k * h.options.interval := by
  rw [updated, read_prompt hprompt, (hprompt k).tasks, (hprompt k).nodes]
  rfl

/-! ## Outcomes and notices of a steady service -/

theorem statusOutcome?_ongoing (converged : Bool) {status : Option UpdateStatus}
    (hs : isOngoing status = true) : statusOutcome? converged status = none := by
  unfold isOngoing at hs
  split at hs
  all_goals first | rfl | cases hs

namespace History.Steady

variable (hs : h.Steady m n window)

include hs

theorem stretch (hi : i ≤ n) : h.Stretch m (m + i) :=
  ⟨hs.before, fun k hk hm => hs.after k hm (by omega)⟩

theorem held_iff (hi : i ≤ n) : h.Held (m + i) ↔ 0 < i ∧ window ≤ i * h.options.interval := by
  have hwindow := hs.window (m + i) (Nat.le_add_right m i)
  have hread := read_prompt hs.prompt (m + i)
  have hupdated := updated_prompt hs.prompt m
  rw [Nat.add_mul] at hread
  constructor
  · rintro ⟨j, hj, hstretch, hheld⟩
    have hpos : 0 < i := by
      rcases Nat.eq_zero_or_pos i with rfl | hpos
      · have hbefore := hstretch.convergedBefore hj
        rw [Nat.add_zero, hs.before] at hbefore
        cases hbefore
      · exact hpos
    have hm : m ≤ j := hstretch.le (hs.stretch hi) (by omega)
    have hj' : j ≤ m := (hs.stretch hi).le hstretch hj
    obtain rfl : j = m := Nat.le_antisymm hj' hm
    exact ⟨hpos, by omega⟩
  · rintro ⟨hpos, hheld⟩
    exact ⟨m, by omega, hs.stretch hi, by omega⟩

theorem plan (hi : i < n) : ∃ plan, h.plan? (m + i) = some plan := by
  have hconverged := hs.after (m + i) (by omega) (by omega)
  rw [converged, Option.any_eq_true] at hconverged
  obtain ⟨plan, hplan, -⟩ := hconverged
  exact ⟨plan, hplan⟩

/-- No outcome is due at a tick that converges before the window is over. -/
theorem outcome_none (hx : ∀ j, j < m + i → h.outcome? j = none) (hi : i < n)
    (hheld : ¬ h.Held (m + i)) : h.outcome? (m + i) = none := by
  have ht := h.tracks_watchAt "" (m + i) hx
  obtain ⟨plan, hplan⟩ := hs.plan hi
  obtain ⟨u, hu, -⟩ := Option.bind_eq_some_iff.1 hplan
  rw [outcome?_recognized ht hu, statusOutcome?_ongoing _ (hs.ongoing _), Option.none_or,
    if_neg hheld, hplan]
  rfl

theorem outcomes_none (hp : 0 < h.options.interval) (hn : n = pausesFor window h.options.interval)
    (hx : ∀ j, j < m → h.outcome? j = none) (hi : i ≤ n) :
    ∀ j, j < m + i → h.outcome? j = none := by
  induction i with
  | zero => exact hx
  | succ i ih =>
    have hbefore := ih (by omega)
    refine Nat.forall_lt_succ_right.2 ⟨hbefore, hs.outcome_none hbefore (by omega) ?_⟩
    have hlt : i = 0 ∨ i * h.options.interval < window := by
      rw [← lt_pausesFor hp]
      omega
    rw [hs.held_iff (by omega)]
    omega

/-- A steady service is stable once the pauses make up its window. -/
theorem outcome_stable (hp : 0 < h.options.interval)
    (hn : n = pausesFor window h.options.interval) (hx : ∀ j, j < m → h.outcome? j = none) :
    h.outcome? (m + n) = some .stable := by
  have ht := h.tracks_watchAt "" (m + n) (hs.outcomes_none hp hn hx le_rfl)
  have hlast : ¬ n < pausesFor window h.options.interval := by omega
  rw [lt_pausesFor hp] at hlast
  obtain ⟨last, rfl⟩ : ∃ last, n = last + 1 := ⟨n - 1, by omega⟩
  obtain ⟨plan, hplan⟩ := hs.plan (Nat.lt_succ_self last)
  have hu : h.updater? (m + (last + 1)) = some plan.final := by
    rw [← Nat.add_assoc, updater?_succ, hplan]
    rfl
  rw [outcome?_recognized ht hu, statusOutcome?_ongoing _ (hs.ongoing _), Option.none_or, if_pos]
  rw [hs.held_iff le_rfl]
  omega

/-- At each tick of the stretch the countdown tells the time that is left of the window. -/
theorem notices (hp : 0 < h.options.interval) (hn : n = pausesFor window h.options.interval)
    (hi : i < n) :
    h.notices (m + i) = [waitingNotice (window - i * h.options.interval)] := by
  have hconverged := hs.after (m + i) (by omega) (by omega)
  have honset : h.onset (m + i) = m := ((hs.stretch hi.le).snoc hconverged).onset (by omega)
  have helapsed : h.elapsed (m + i) = i * h.options.interval := by
    rw [elapsed, honset, updated_prompt hs.prompt, updated_prompt hs.prompt, Nat.add_mul,
      Nat.add_sub_cancel_left]
  rw [hn, lt_pausesFor hp] at hi
  rw [History.notices, if_pos hconverged, helapsed, hs.window _ (by omega), if_pos]
  rcases hi with rfl | hi
  · omega
  · exact hi.le

end History.Steady

/-! ## The queries of ticks -/

theorem asked_verdicts {es : List Entry} (hes : ∀ x ∈ es, x.isVerdict = true) (q : Query) :
    es.countP (Entry.isAsked q) = 0 := by
  refine List.countP_eq_zero.2 fun x hx hasked => ?_
  have hverdict := hes x hx
  cases x <;> simp_all [Entry.isVerdict, Entry.isAsked]

theorem asked_emitted (es : List Event) (now : Nat) (q : Query) :
    (es.map (Entry.emitted now)).countP (Entry.isAsked q) = 0 := by
  simp [Entry.isAsked]

/-- A tick at which no outcome is due asks each query once. -/
theorem History.asked_once (id : String) (hx : ∀ i, i ≤ k → h.outcome? i = none) (q : Query) :
    (h.entriesAt id k).countP (Entry.isAsked q) = 1 := by
  obtain ⟨plan, rest, -, hrest, hentries⟩ := h.entriesAt_eq id hx
  rw [hentries]
  simp only [List.countP_cons, List.countP_append, asked_emitted, asked_verdicts hrest]
  cases q <;> rfl

theorem History.asked_range (id : String) (hx : ∀ i, i < k → h.outcome? i = none) (q : Query) :
    ((List.range k).flatMap (h.entriesAt id)).countP (Entry.isAsked q) = k := by
  have hone : ∀ i ∈ List.range k, (List.countP (Entry.isAsked q) ∘ h.entriesAt id) i = 1 := by
    intro i hi
    have hik := List.mem_range.1 hi
    exact h.asked_once id (fun j hj => hx j (by omega)) q
  rw [List.countP_flatMap, List.map_congr_left hone, List.map_const', List.length_range,
    List.sum_replicate_nat, Nat.mul_one]

/-- A tick at which the service is stable asks for the service alone. -/
theorem History.asked_stable (id : String) (hx : ∀ i, i < k → h.outcome? i = none)
    (hstable : h.outcome? k = some .stable) (q : Query) :
    (h.entriesAt id k).countP (Entry.isAsked q) = if q = .service then 1 else 0 := by
  rw [h.entriesAt_stable id hx hstable]
  simp only [List.countP_cons, List.countP_append, asked_emitted, List.countP_nil]
  cases q <;> rfl

/-! ## Sessions -/

variable {o : Output σ} {new : σ}

/-- No outcome was due before the last tick of a session that goes on. -/
theorem outcome?_of_unfinished (ho : o.TakesAll new) (h : History) (id : String) {count : Nat}
    (hrun : (run o new h.options none id h.script count).1 = .unfinished) :
    ∀ k, k < count → h.outcome? k = none := by
  by_contra hdue
  push Not at hdue
  obtain ⟨k, ⟨hk, hx⟩, hleast⟩ := Nat.findX hdue
  have hbefore : ∀ j, j < k → h.outcome? j = none := by
    intro j hj
    have hnot := hleast j hj
    simp only [not_and, not_not] at hnot
    exact hnot (by omega)
  obtain ⟨x, hx⟩ := Option.ne_none_iff_exists'.1 hx
  obtain ⟨rest, rfl⟩ : ∃ rest, count = k + rest + 1 := ⟨count - k - 1, by omega⟩
  rw [← Nat.zero_add k] at hx
  have hends := course_ends (tracks_start h) id rest
    (fun j hj => (Nat.zero_add j).symm ▸ hbefore j hj) hx
  obtain ⟨r, -, hfree⟩ := run_uninterrupted ho h.options id h.script (k + rest + 1)
  have hending : (wholeCourse h.options id h.script (k + rest + 1)).2 = .done x.result :=
    hends.ending
  rw [hfree, hending] at hrun
  cases hrun

/-- A session whose service is stable at tick `k`, and which no outcome ends before: its journal is
that of the ticks up to this one, and it ends when the service is read. -/
theorem run_until_stable (ho : o.TakesAll new) (hc : o.ClosesAlways new) (h : History)
    (id : String) (hx : ∀ j, j < k → h.outcome? j = none) (hstable : h.outcome? k = some .stable)
    {count : Nat} (hcount : k < count) :
    let whole := run o new h.options none id h.script count
    whole.1 = .done (.ok ()) ∧ whole.2.now = h.read k ∧
      whole.2.log = .noted (.watching id) :: (List.range (k + 1)).flatMap (h.entriesAt id) := by
  intro whole
  let own := ownRun o new h.options none id h.script count
  have hscript : h.script.history h.options = h := rfl
  obtain ⟨hending, hinterrupted⟩ := run_ending ho hc h.options id h.script count
  have hok : whole.1 = .done (.ok ()) := by
    obtain ⟨rest, rfl⟩ : ∃ rest, count = k + rest + 1 := ⟨count - k - 1, by omega⟩
    rw [← Nat.zero_add k] at hstable
    exact hending.trans (course_ends (tracks_start h) id rest
      (fun j hj => (Nat.zero_add j).symm ▸ hx j hj) hstable).ending
  obtain ⟨hlog, hnot⟩ := finish_spec o own
  obtain ⟨n, r, hr, hhalt⟩ := ownRun_account o new h.options none id h.script count
  obtain ⟨hi, hact, hv⟩ := hhalt.finishes (own_of_finish_ok hok) (hnot.symm.trans hinterrupted)
  obtain ⟨-, -, hdue, -⟩ := hr.finished hi hv
  rw [hscript] at hr hact hdue
  -- The tick that finishes is the first one at which an outcome is due.
  obtain rfl : n = k := by
    rcases Nat.lt_trichotomy n k with hlt | rfl | hlt
    · simp [hx n hlt] at hdue
    · rfl
    · rw [hr.passed k hlt] at hstable
      cases hstable
  have hends := hr.tracks.tick_ends id hstable
  obtain ⟨as, hactions, htime⟩ := hends.notice rfl
  have hcarried := actAll_carried o none r ((h.watchAt id n).tick id (h.script n) r.now).actions
  rw [hact, hr.now hi] at hcarried
  cases hcarried with
  | through hall hnow =>
    rw [hr.now hi] at hall hnow
    refine ⟨hok, ?_, ?_⟩
    · have hkept : whole.2.now = own.2.now := by
        show (finish o own).2.now = _
        obtain ⟨e, r⟩ := own
        cases e <;> rfl
      rw [hkept, hnow]
      show timeAfter (h.begins n) ((h.watchAt id n).tick id (h.scenes n).frame
        (h.begins n)).actions = _
      rw [hactions, timeAfter_append, htime]
      rfl
    · rw [List.range_succ, List.flatMap_append, List.flatMap_singleton]
      exact (hlog.trans hall).trans (by rw [hr.log]; rfl)

/-! ## What is told of stability -/

theorem reports_stable (id : String) (hx : ∀ i, i < k → h.outcome? i = none)
    (hstable : h.outcome? k = some .stable) :
    reportsOf (h.entriesAt id k) = [.emitted (h.read k) convergedNotice] := by
  have hnotice : reportsOf ((h.rollbackNotice k).map (.emitted (h.read k))) = [] := by
    rw [reportsOf_emitted, shownAsNotices, List.map_eq_nil_iff, List.filter_eq_nil_iff]
    intro e he hid
    rw [rollbackNotice_id he] at hid
    cases hid
  rw [h.entriesAt_stable id hx hstable, ← List.cons_append, reportsOf_append]
  exact congrArg (· ++ _) hnotice

theorem reports_since (id : String) {n : Nat} (hs : h.Steady m n window)
    (hp : 0 < h.options.interval) (hn : n = pausesFor window h.options.interval)
    (hx : ∀ j, j < m → h.outcome? j = none) (hi : i < n) :
    reportsOf (h.entriesAt id (m + i)) = h.poll (m + i) ::
      (h.shown (m + i) ++ [waitingNotice (window - i * h.options.interval)]).map
        (.emitted (h.updated m + i * h.options.interval)) := by
  have hnone := hs.outcomes_none hp hn hx (i := i + 1) hi
  have ht := h.tracks_watchAt id (m + i) fun j hj => hnone j (by omega)
  have htime : h.updated (m + i) = h.updated m + i * h.options.interval := by
    rw [History.updated_prompt hs.prompt, History.updated_prompt hs.prompt, Nat.add_mul]
  rw [← hs.notices hp hn hi, ← htime]
  exact ht.reports id (hnone _ (by omega)) (hs.prompt _).lag

/-- The exact end of a session whose service stays converged from tick `m` on. The session has come
to this tick, whose update is done at some time; from there it goes on for as many pauses as make up
the window, and one at least. Then it succeeds, with the service read once more for each pause, and
the tasks and the nodes for all pauses but the last. Since the update of tick `m` it has told, at
each tick but the last, how much of the window is left, and last that the service converged; under
the id of these notices nothing else is shown but lines of nodes with that short id. -/
theorem run_stable (ho : o.TakesAll new) (hc : o.ClosesAlways new) (h : History)
    (hp : 0 < h.options.interval) (id : String) {m window : Nat}
    (hs : h.Steady m (pausesFor window h.options.interval) window)
    (hrun : (run o new h.options none id h.script m).1 = .unfinished) {count : Nat}
    (hcount : m + pausesFor window h.options.interval < count) :
    let p := h.options.interval
    let n := pausesFor window p
    let t := h.updated m
    let whole := run o new h.options none id h.script count
    whole.1 = .done (.ok ()) ∧ whole.2.now = t + n * p ∧
    (∀ q, whole.2.calls q = (m + 1) + if q = .service then n else n - 1) ∧
    ∃ before since, whole.2.log = before ++ since ∧
      (∀ q, before.countP (Entry.isAsked q) = m) ∧
      reportsOf since = ((List.range n).flatMap fun i => h.poll (m + i) ::
          (h.shown (m + i) ++ [waitingNotice (window - i * p)]).map (.emitted (t + i * p))) ++
        [.emitted (t + n * p) convergedNotice] ∧
      (∃ es, since = es ++ [.emitted (t + n * p) convergedNotice, .noted (.converged id)]) ∧
      ∀ i, i < n → ∀ e ∈ h.shown (m + i), (h.service 0).replicas = none ∧
        ∃ x ∈ tasksByNode (h.view (m + i)).tasks (h.view (m + i)).active,
          shortId x.1 = verifyId ∧ e ∈ Update.unitLine verifyId x.2 (h.isRollback (m + i)) := by
  intro p n t whole
  have hx := outcome?_of_unfinished ho h id hrun
  have hnone := hs.outcomes_none hp rfl hx (le_refl n)
  have hstable : h.outcome? (m + n) = some .stable := hs.outcome_stable hp rfl hx
  have hpos : 0 < n := (lt_pausesFor hp).2 (.inl rfl)
  have htime : h.read (m + n) = t + n * p := by
    rw [History.read_prompt hs.prompt, Nat.add_mul, ← History.updated_prompt hs.prompt]
  obtain ⟨hok, hnow, hlog⟩ := run_until_stable ho hc h id hnone hstable hcount
  refine ⟨hok, hnow.trans htime, fun q => ?_,
    .noted (.watching id) :: (List.range m).flatMap (h.entriesAt id),
    ((List.range n).flatMap fun i => h.entriesAt id (m + i)) ++ h.entriesAt id (m + n),
    ?_, fun q => ?_, ?_, ?_, fun i _ e he => History.shown_line he⟩
  · rw [Run.calls, countP_journal _ _ (by simp [Entry.isAsked]), hlog, List.range_succ,
      List.flatMap_append, List.flatMap_singleton,
      List.countP_cons_of_neg (by simp [Entry.isAsked]), List.countP_append,
      History.asked_range id hnone, h.asked_stable id hnone hstable]
    split <;> omega
  · rw [hlog, List.range_succ, List.flatMap_append, List.flatMap_singleton, List.range_add,
      List.flatMap_append, List.flatMap_map, List.cons_append, List.append_assoc]
  · rw [List.countP_cons_of_neg (by simp [Entry.isAsked]), History.asked_range id hx]
  · rw [reportsOf_append, reports_stable id hnone hstable, htime, reportsOf, List.filter_flatMap]
    congr 1
    refine List.flatMap_congr fun i hi => ?_
    exact reports_since id hs hp rfl hx (List.mem_range.1 hi)
  · rw [h.entriesAt_stable id hnone hstable, htime, ← List.cons_append, ← List.append_assoc]
    exact ⟨_, rfl⟩

/-- A service with one task that starts, and runs from the second tick on. The window of 500 that it
set at its first read takes three pauses of 200. -/
theorem run_stable_after_start :
    let task (state : TaskState) : Task := ⟨"t", "web", "n", 1, .running, ⟨state, "", ""⟩⟩
    let service (monitor : Nat) : Service := ⟨"web", ⟨"web", .ofReplicas 1, some ⟨monitor⟩⟩, none⟩
    let scene (monitor : Nat) (state : TaskState) : Scene :=
      ⟨⟨0, service monitor⟩, ⟨0, [task state]⟩, ⟨0, [⟨"n", .ready⟩]⟩, 0⟩
    let h : History := ⟨⟨200, 9000⟩, fun k =>
      scene (if k = 0 then 500 else 0) (if k = 0 then .starting else .running)⟩
    let whole := run Output.recording .empty h.options none "web" h.script 6
    Output.recording.TakesAll .empty ∧ Output.recording.ClosesAlways .empty ∧
      0 < h.options.interval ∧ h.Steady 1 (pausesFor 500 h.options.interval) 500 ∧
      (run Output.recording .empty h.options none "web" h.script 1).1 = .unfinished ∧
      1 + pausesFor 500 h.options.interval < 6 ∧ whole.1 = .done (.ok ()) ∧
      whole.2.now = 200 + 3 * h.options.interval ∧ whole.2.calls .service = 2 + 3 ∧
      whole.2.calls .tasks = 2 + 2 := by
  intro task service scene h
  have ho : Output.recording.TakesAll .empty := fun _ _ _ _ => rfl
  have hc : Output.recording.ClosesAlways .empty := fun _ _ _ => rfl
  have hp : 0 < h.options.interval := by decide
  have hn : pausesFor 500 h.options.interval = 3 := by decide
  have ht : h.updated 1 = 200 := by decide
  have hs : h.Steady 1 (pausesFor 500 h.options.interval) 500 := by
    have hlatest : ∀ k, h.latest windowSet k = some 500 := by
      intro k
      induction k with
      | zero => rfl
      | succ k ih =>
        rw [History.latest_succ, ih]
        rfl
    refine ⟨fun k => ⟨rfl, rfl, rfl, rfl⟩, fun k => rfl, fun k _ => ?_, by decide +kernel, ?_⟩
    · rw [History.window, hlatest]
      rfl
    · rw [hn]
      decide +kernel
  have hrun : (run Output.recording .empty h.options none "web" h.script 1).1 =
      .unfinished := by rfl
  have hcount : 1 + pausesFor 500 h.options.interval < 6 := by decide
  obtain ⟨hok, hnow, hcalls, -⟩ := run_stable ho hc h hp "web" hs hrun hcount
  rw [ht, hn] at hnow
  rw [hn] at hcalls
  exact ⟨ho, hc, hp, hs, hrun, hcount, hok, hnow, hcalls .service, hcalls .tasks⟩

end Rollout.Session
