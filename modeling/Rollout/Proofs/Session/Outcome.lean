import Rollout.Proofs.Session.History

/-!
What becomes of a session. What it remembers agrees with its history at every tick (`Tracks`), so
it ends with the first tick at which an outcome is due (`run_outcome`).
-/

namespace Rollout.Session

/-! ## What a session remembers -/

/-- What a session remembers when a tick begins, and what its history tells. -/
structure Tracks (h : History) (k : Nat) (w : Watch) : Prop where
  updater : w.updaterFor? (h.service k) = h.updater? k
  later : k ≠ 0 → h.updater? k ≠ none
  since : ∀ t, w.since = some t → ∃ j, j < k ∧ h.Stretch j k ∧ t = h.updated j
  converged : w.isConverged = h.convergedBefore k
  monitor : (windowSet (h.service k)).getD w.monitor = h.window k
  rollback : (rollbackSign (h.service k)).getD w.rollback = h.isRollback k

theorem tracks_start (h : History) : Tracks h 0 (.start h.options.monitor) where
  updater := rfl
  later hk := absurd rfl hk
  since t ht := by cases ht
  converged := rfl
  monitor := by rw [History.window, History.latest_zero]; rfl
  rollback := by rw [History.isRollback, History.latest_zero]; rfl

/-- A session that has read the service at tick `k`, and followed its update status. -/
def History.watch (h : History) (k : Nat) (w : Watch) : Watch :=
  { w with monitor := h.window k, rollback := h.isRollback k }

theorem Tracks.isStable {h : History} {k : Nat} {w : Watch} (ht : Tracks h k w) :
    (h.watch k w).isStable (h.read k) = true ↔ h.Held k := by
  have hread : h.begins k ≤ h.read k := by
    rw [History.read]
    omega
  cases hs : w.since with
  | none =>
    have hb : h.convergedBefore k = false := by
      rw [← ht.converged, Watch.isConverged, hs]
      rfl
    have hn : ¬ h.Held k := by
      rintro ⟨j, hjk, hj, -⟩
      rw [hj.convergedBefore hjk] at hb
      cases hb
    simp [Watch.isStable, History.watch, hs, hn]
  | some t =>
    obtain ⟨j, hjk, hj, rfl⟩ := ht.since t hs
    have hle := h.updated_le_begins hjk
    have heq : (h.watch k w).isStable (h.read k) =
        decide (h.window k ≤ h.read k - h.updated j) := by
      simp [Watch.isStable, History.watch, hs]
    rw [heq, decide_eq_true_iff]
    constructor
    · intro hw
      exact ⟨j, hjk, hj, by omega⟩
    · rintro ⟨i, hik, hi, hw⟩
      have hij : i = j := Nat.le_antisymm (hj.le hi hik) (hi.le hj hjk)
      subst hij
      omega

/-- The updates of a tick leave behind what its history tells. -/
theorem Tracks.announced {h : History} {k : Nat} {w w' : Watch} {p : Plan Updater}
    (ht : Tracks h k w) (hp : h.plan? k = some p) (hu : w'.updater = some p.final)
    (hs : w'.since = if p.converged then some (w.since.getD (h.updated k)) else none)
    (hm : w'.monitor = h.window k) (hr : w'.rollback = h.isRollback k) :
    Tracks h (k + 1) w' := by
  have hc : h.converged k = p.converged := by
    rw [History.converged, hp]
    rfl
  have hup : h.updater? (k + 1) = some p.final := by
    rw [History.updater?_succ, hp]
    rfl
  refine ⟨?_, ?_, ?_, ?_, ?_, ?_⟩
  · rw [Watch.updaterFor?, hu, hup]
  · simp [hup]
  · intro t htk
    rw [hs] at htk
    split at htk
    · rename_i hpc
      rw [← hc] at hpc
      cases hw : w.since with
      | none =>
        have hb : h.convergedBefore k = false := by
          rw [← ht.converged, Watch.isConverged, hw]
          rfl
        rw [hw] at htk
        cases htk
        exact ⟨k, by omega, .single hb hpc, rfl⟩
      | some t' =>
        obtain ⟨j, hjk, hj, rfl⟩ := ht.since t' hw
        rw [hw] at htk
        cases htk
        exact ⟨j, by omega, hj.snoc hpc, rfl⟩
    · cases htk
  · rw [Watch.isConverged, hs, History.convergedBefore, hc]
    cases p.converged <;> rfl
  · rw [hm, History.window, History.window, History.getD_latest]
  · rw [hr, History.isRollback, History.isRollback, History.getD_latest]

/-! ## What a tick does -/

def Outcome.verdict : Outcome → Verdict
  | .failed f => .fail f
  | _ => .finish

theorem follow_verdict (w : Watch) (id : String) (service : Service) :
    (w.follow id service.updateStatus).verdict =
      match statusOutcome? w.isConverged service.updateStatus with
      | some x => x.verdict
      | none => .goOn { w with rollback := (rollbackSign service).getD w.rollback } := by
  rw [rollbackSign]
  cases service.updateStatus with
  | none => rfl
  | some status =>
    obtain ⟨state, message⟩ := status
    cases state <;> cases hc : w.isConverged <;>
      simp [Watch.follow, statusOutcome?, hc, Outcome.verdict]

theorem statusOutcome?_ne_stable (converged : Bool) (status : Option UpdateStatus) :
    statusOutcome? converged status ≠ some .stable := by
  unfold statusOutcome?
  repeat' split
  all_goals simp

theorem updater?_eq_none {h : History} {k : Nat} {w : Watch} (ht : Tracks h k w) :
    h.updater? k = none ↔
      k = 0 ∧ (h.service 0).replicas = none ∧ (h.service 0).spec.mode.isGlobal = false := by
  by_cases hk : k = 0
  · subst hk
    cases hr : (h.service 0).replicas <;> simp [History.updater?, Updater.ofService?, hr]
  · simp [hk, ht.later hk]

theorem outcome?_unrecognized {h : History} {k : Nat} {w : Watch} (ht : Tracks h k w)
    (hu : h.updater? k = none) : h.outcome? k = some (.failed .unrecognizedMode) := by
  rw [History.outcome?, if_pos ((updater?_eq_none ht).1 hu)]

/-- The outcome that is due, in the order in which a session looks for one. -/
theorem outcome?_recognized {h : History} {k : Nat} {w : Watch} (ht : Tracks h k w) {u : Updater}
    (hu : h.updater? k = some u) :
    h.outcome? k = (statusOutcome? (h.convergedBefore k) (h.service k).updateStatus).or
      (if h.Held k then some .stable
      else (h.plan? k).elim (some (.failed .noReplicaCount)) fun _ => none) := by
  have hk : ¬ (k = 0 ∧ (h.service 0).replicas = none ∧
      (h.service 0).spec.mode.isGlobal = false) := by
    rw [← updater?_eq_none ht, hu]
    simp
  rw [History.outcome?, if_neg hk]
  cases statusOutcome? (h.convergedBefore k) (h.service k).updateStatus with
  | some x => rfl
  | none =>
    simp only [← h.plan?_eq_none hu]
    cases h.plan? k <;> simp

/-- What the session remembers once it has followed the update status. -/
theorem Tracks.followed {h : History} {k : Nat} {w : Watch} (ht : Tracks h k w) {id : String}
    {as : List Action} {v : Verdict}
    (hf : (w.observe (h.service k)).follow id (h.service k).updateStatus = ⟨as, v⟩) :
    v = match statusOutcome? (h.convergedBefore k) (h.service k).updateStatus with
      | some x => x.verdict
      | none => .goOn (h.watch k w) := by
  have hv := follow_verdict (w.observe (h.service k)) id (h.service k)
  have hwatch : { w.observe (h.service k) with
      rollback := (rollbackSign (h.service k)).getD (w.observe (h.service k)).rollback } =
      h.watch k w := by
    simp only [Watch.observe, History.watch, monitor_eq_windowSet, ht.monitor, ht.rollback]
  rw [hf, hwatch, show (w.observe (h.service k)).isConverged = h.convergedBefore k from
    ht.converged] at hv
  exact hv

/-- A session that goes on from the update status has no outcome due by it. -/
theorem Tracks.followed_goOn {h : History} {k : Nat} {w w' : Watch} (ht : Tracks h k w)
    {id : String} {as : List Action}
    (hf : (w.observe (h.service k)).follow id (h.service k).updateStatus = ⟨as, .goOn w'⟩) :
    statusOutcome? (h.convergedBefore k) (h.service k).updateStatus = none ∧ w' = h.watch k w := by
  have hfollowed := ht.followed hf
  cases hx : statusOutcome? (h.convergedBefore k) (h.service k).updateStatus with
  | some x =>
    rw [hx] at hfollowed
    cases x <;> cases hfollowed
  | none =>
    rw [hx] at hfollowed
    cases hfollowed
    exact ⟨rfl, rfl⟩

theorem poll_fails {h : History} {k : Nat} (w : Watch) (id : String) {u : Updater}
    (hu : h.updater? k = some u) (hp : h.plan? k = none) :
    ∃ as, (h.watch k w).poll id (h.scenes k).frame (h.service k) u (h.read k) =
      ⟨(h.scenes k).frame.queries id ++ as, .fail .noReplicaCount⟩ ∧
      as.all Action.isAside = true := by
  rw [History.plan?_of_updater hu] at hp
  have hr := render_fails (w := h.watch k w) id (h.updated k) (h.scenes k).lag hp
  exact ⟨_, congrArg (Tick.after · ((h.scenes k).frame.queries id)) hr, rfl⟩

theorem Tracks.poll_goes {h : History} {k : Nat} {w : Watch} (ht : Tracks h k w) (id : String)
    {u : Updater} (hu : h.updater? k = some u) {p : Plan Updater} (hp : h.plan? k = some p) :
    ∃ as w', (h.watch k w).poll id (h.scenes k).frame (h.service k) u (h.read k) =
      ⟨(h.scenes k).frame.queries id ++ as, .goOn w'⟩ ∧ as.all Action.isAside = true ∧
      Tracks h (k + 1) w' := by
  have hplan := hp
  rw [History.plan?_of_updater hu] at hp
  obtain ⟨as, ha, hr⟩ :=
    render_goes (w := h.watch k w) id (h.updated k) (h.scenes k).lag hp
  exact ⟨as, _, congrArg (Tick.after · ((h.scenes k).frame.queries id)) hr, ha,
    ht.announced hplan rfl rfl rfl rfl⟩

/-- A tick at which an outcome is due. -/
structure Tick.Ends (t : Tick) (h : History) (k : Nat) (id : String) (x : Outcome) : Prop where
  verdict : t.verdict = x.verdict
  once : t.actions.countP (Action.isAsk .service) = 1
  notice : x = .stable → ∃ as, t.actions = as ++ [.emit convergedNotice, .note (.converged id)] ∧
    timeAfter (h.begins k) as = h.read k
  only : .note (.converged id) ∈ t.actions → x = .stable

/-- A tick at which none is due. -/
structure Tick.Passes (t : Tick) (h : History) (k : Nat) (id : String) (w : Watch) : Prop where
  verdict : t.verdict = .goOn w
  once : t.actions.countP (Action.isAsk .service) = 1
  quiet : .note (.converged id) ∉ t.actions
  time : timeAfter (h.begins k) t.actions = h.updated k
  tracks : Tracks h (k + 1) w

/-- A tick that shows its snapshot. -/
theorem Tracks.polled {h : History} {k : Nat} {w : Watch} (ht : Tracks h k w) (id : String)
    {u : Updater} (hu : h.updater? k = some u) {as : List Action}
    (ha : as.all Action.isAside = true)
    (hs : statusOutcome? (h.convergedBefore k) (h.service k).updateStatus = none)
    (hheld : ¬ h.Held k) :
    let t := ((h.watch k w).poll id (h.scenes k).frame (h.service k) u (h.read k)).after
      ((h.scenes k).frame.reading id ++ as)
    match h.outcome? k with
    | some x => t.Ends h k id x
    | none => ∃ w', t.Passes h k id w' := by
  intro t
  rw [outcome?_recognized ht hu, hs, Option.none_or, if_neg hheld]
  cases hp : h.plan? k with
  | none =>
    obtain ⟨bs, hpoll, hb⟩ := poll_fails w id hu hp
    simp only [t, hpoll]
    refine ⟨rfl, ?_, by simp, fun hn => ?_⟩
    · simp [Tick.after, List.countP_append, asides_ask ha, asides_ask hb]
    · simp [Tick.after, Frame.reading, Frame.queries, asides_converged ha,
        asides_converged hb] at hn
  | some p =>
    obtain ⟨bs, w', hpoll, hb, htracks⟩ := ht.poll_goes id hu hp
    simp only [t, hpoll]
    refine ⟨w', rfl, ?_, ?_, ?_, htracks⟩
    · simp [Tick.after, List.countP_append, asides_ask ha, asides_ask hb]
    · simp [Tick.after, Frame.reading, Frame.queries, asides_converged ha, asides_converged hb]
    · simp only [Tick.after, timeAfter_append, timeAfter_asides ha, timeAfter_asides hb]
      rfl

/-- A session that agrees with its history when a tick begins does what its history tells. -/
theorem Tracks.tick {h : History} {k : Nat} {w : Watch} (ht : Tracks h k w) (id : String) :
    match h.outcome? k with
    | some x => (w.tick id (h.scenes k).frame (h.begins k)).Ends h k id x
    | none => ∃ w', (w.tick id (h.scenes k).frame (h.begins k)).Passes h k id w' := by
  have hdoes := w.tick_does id (h.scenes k).frame (h.begins k)
  generalize w.tick id (h.scenes k).frame (h.begins k) = t at hdoes ⊢
  -- One case for each thing that a tick can do; the service of a scene is always read.
  cases hdoes with
  | silent hs => cases hs
  | failed hs => cases hs
  | unrecognized hs hu =>
    cases hs
    rw [outcome?_unrecognized ht (ht.updater.symm.trans hu)]
    exact ⟨rfl, by simp, by simp, by simp [Frame.reading]⟩
  | @ended service u as v hs hu hf ha hv =>
    cases hs
    rw [outcome?_recognized ht (ht.updater.symm.trans hu)]
    have hfollowed := ht.followed hf
    cases hx : statusOutcome? (h.convergedBefore k) (h.service k).updateStatus with
    | none =>
      rw [hx] at hfollowed
      exact absurd hfollowed (hv _)
    | some x =>
      rw [hx] at hfollowed
      refine ⟨hfollowed, ?_, fun he => ?_, fun hn => ?_⟩
      · simp [List.countP_append, asides_ask ha]
      · subst he
        exact (statusOutcome?_ne_stable _ _ hx).elim
      · simp [Frame.reading, asides_converged ha] at hn
  | @stable service u as w' hs hu hf ha hw =>
    cases hs
    obtain ⟨hx, rfl⟩ := ht.followed_goOn hf
    rw [outcome?_recognized ht (ht.updater.symm.trans hu), hx, Option.none_or,
      if_pos (ht.isStable.1 hw)]
    refine ⟨rfl, ?_, fun _ => ⟨_, rfl, ?_⟩, fun _ => rfl⟩
    · simp [List.countP_append, Action.isAsk, asides_ask ha]
    · rw [timeAfter_append, timeAfter_asides ha]
      rfl
  | @polled service u as w' hs hu hf ha hw =>
    cases hs
    obtain ⟨hx, rfl⟩ := ht.followed_goOn hf
    have hheld : ¬ h.Held k := by
      rw [← ht.isStable]
      exact Bool.not_eq_true _ ▸ hw
    exact ht.polled id (ht.updater.symm.trans hu) ha hx hheld

theorem Tracks.tick_ends {h : History} {k : Nat} {w : Watch} (ht : Tracks h k w) (id : String)
    {x : Outcome} (hx : h.outcome? k = some x) :
    (w.tick id (h.scenes k).frame (h.begins k)).Ends h k id x := by
  have htick := ht.tick id
  rwa [hx] at htick

theorem Tracks.tick_passes {h : History} {k : Nat} {w : Watch} (ht : Tracks h k w) (id : String)
    (hx : h.outcome? k = none) :
    ∃ w', (w.tick id (h.scenes k).frame (h.begins k)).Passes h k id w' := by
  have htick := ht.tick id
  rwa [hx] at htick

/-! ## What a session does -/

/-- A course that an outcome ends at tick `k`, after so many reads of the service. -/
structure EndsAt (h : History) (id : String) (k : Nat) (x : Outcome) (reads : Nat)
    (c : List Deed × Ending) : Prop where
  ending : c.2 = .done x.result
  reads : (entriesOf c.1).countP (Entry.isAsked .service) = reads
  notice : x = .stable → ∃ es, entriesOf c.1 =
    es ++ [.emitted (h.read k) convergedNotice, .noted (.converged id)]
  only : .noted (.converged id) ∈ entriesOf c.1 → x = .stable

/-- The course of a session with a tick at which no outcome is due. -/
theorem course_passes {h : History} {id : String} {k : Nat} {w w' : Watch}
    (ht : (w.tick id (h.scenes k).frame (h.begins k)).Passes h k id w') (count : Nat) :
    course h.options id h.script (count + 1) k w (h.begins k) =
      let rest := course h.options id h.script count (k + 1) w' (h.begins (k + 1))
      (deedsFrom (h.begins k) (w.tick id (h.scenes k).frame (h.begins k)).actions
        ++ ⟨h.updated k, .wait h.options.interval⟩ :: rest.1, rest.2) := by
  simp only [course, History.script, ht.verdict, ht.time]
  rfl

theorem course_unfinished {h : History} {k : Nat} {w : Watch} (ht : Tracks h k w) (id : String)
    (count : Nat) (hx : ∀ j, j < count → h.outcome? (k + j) = none) :
    (course h.options id h.script count k w (h.begins k)).2 = .unfinished := by
  induction count generalizing k w with
  | zero => rfl
  | succ count ih =>
    obtain ⟨w', hp⟩ := ht.tick_passes id (hx 0 (by omega))
    rw [course_passes hp]
    refine ih hp.tracks fun j hj => ?_
    rw [Nat.add_right_comm, Nat.add_assoc]
    exact hx (j + 1) (by omega)

/-- What the journal of a session says of a tick at which no outcome is due, and of the rest. -/
theorem entriesOf_passes {ds rest : List Deed} {time interval : Nat} :
    entriesOf (ds ++ ⟨time, .wait interval⟩ :: rest) = entriesOf ds ++ entriesOf rest := by
  rw [entriesOf_append]
  rfl

theorem course_ends {h : History} {k : Nat} {w : Watch} (ht : Tracks h k w) (id : String)
    {n : Nat} (rest : Nat) (hbefore : ∀ j, j < n → h.outcome? (k + j) = none)
    {x : Outcome} (hx : h.outcome? (k + n) = some x) :
    EndsAt h id (k + n) x (n + 1)
      (course h.options id h.script (n + rest + 1) k w (h.begins k)) := by
  -- The induction is on the ticks that pass before the last one.
  induction n generalizing k w with
  | zero =>
    have he := ht.tick_ends id hx
    have hcourse : course h.options id h.script (0 + rest + 1) k w (h.begins k) =
        (deedsFrom (h.begins k) (w.tick id (h.scenes k).frame (h.begins k)).actions,
          .done x.result) := by
      simp only [course, History.script, he.verdict]
      cases x <;> rfl
    rw [hcourse]
    refine ⟨rfl, ?_, fun hs => ?_, fun hm => ?_⟩
    · rw [countP_deedsFrom, he.once]
    · obtain ⟨as, has, htime⟩ := he.notice hs
      rw [has, deedsFrom_append, entriesOf_append, htime]
      exact ⟨_, rfl⟩
    · exact he.only ((noted_mem_deedsFrom ..).1 hm)
  | succ n ih =>
    obtain ⟨w', hp⟩ := ht.tick_passes id (hbefore 0 (by omega))
    have hlater : ∀ j, j < n → h.outcome? (k + 1 + j) = none := by
      intro j hj
      rw [Nat.add_right_comm, Nat.add_assoc]
      exact hbefore (j + 1) (by omega)
    have hk : k + (n + 1) = k + 1 + n := by omega
    rw [hk] at hx ⊢
    rw [Nat.add_right_comm n 1 rest]
    have hr := ih hp.tracks hlater hx
    rw [course_passes hp]
    refine ⟨hr.ending, ?_, fun hs => ?_, fun hm => ?_⟩
    · rw [entriesOf_passes, List.countP_append, countP_deedsFrom, hp.once, hr.reads, Nat.add_comm]
    · obtain ⟨es, hes⟩ := hr.notice hs
      rw [entriesOf_passes, hes, ← List.append_assoc]
      exact ⟨_, rfl⟩
    · rw [entriesOf_passes, List.mem_append, noted_mem_deedsFrom] at hm
      exact hr.only (hm.resolve_left hp.quiet)

/-- How a session ends is told by its history alone. It ends with the first tick at which an
outcome is due, after one read of the service at each tick, and with the result of that outcome.
The notice that the service converged is the last event of a session whose service was stable, and
is shown by no other. -/
theorem run_outcome {o : Output σ} {new : σ} (ho : o.TakesAll new) (h : History) (id : String)
    (count : Nat) :
    (∀ k x, k < count → (∀ j, j < k → h.outcome? j = none) → h.outcome? k = some x →
      ∃ r, run o new h.options none id h.script count = finish o (.done x.result, r) ∧
        r.calls .service = k + 1 ∧
        (x = .stable → ∃ es, r.log =
          es ++ [.emitted (h.read k) convergedNotice, .noted (.converged id)]) ∧
        (.noted (.converged id) ∈ r.log → x = .stable)) ∧
    ((∀ k, k < count → h.outcome? k = none) →
      (run o new h.options none id h.script count).1 = .unfinished) := by
  obtain ⟨r, hd, hrun⟩ := run_uninterrupted ho h.options id h.script count
  have hlog : r.log = .noted (.watching id) :: entriesOf
      (course h.options id h.script count 0 (.start h.options.monitor) 0).1 := hd.log
  rw [hrun]
  constructor
  · intro k x hk hbefore hx
    obtain ⟨rest, rfl⟩ : ∃ rest, count = k + rest + 1 := ⟨count - k - 1, by omega⟩
    rw [← Nat.zero_add k] at hx
    have he := course_ends (tracks_start h) id rest
      (fun j hj => (Nat.zero_add j).symm ▸ hbefore j hj) hx
    rw [Nat.zero_add] at he
    refine ⟨r, by rw [← he.ending]; rfl, ?_, fun hs => ?_, fun hm => ?_⟩
    · rw [Run.calls, countP_journal _ _ (by simp [Entry.isAsked]), hlog, List.countP_cons]
      exact congrArg (· + 0) he.reads
    · obtain ⟨es, hes⟩ := he.notice hs
      exact ⟨.noted (.watching id) :: es, hlog.trans (congrArg _ hes)⟩
    · rw [hlog, List.mem_cons] at hm
      exact he.only (hm.resolve_left (by simp))
  · intro hx
    have hu := course_unfinished (tracks_start h) id count fun j hj =>
      (Nat.zero_add j).symm ▸ hx j hj
    have hw : (wholeCourse h.options id h.script count).2 = .unfinished := hu
    rw [hw]
    rfl

/-- A service that converges, leaves the running state once, and converges again. The time that it
has to hold is counted from the second stretch, and is the one that it set at its third read: it is
shorter than the time of the session, and the zeros around it set none. -/
theorem run_outcome_after_regression :
    let task (state : TaskState) : Task := ⟨"t", "web", "n", 1, .running, ⟨state, "", ""⟩⟩
    let service (monitor : Nat) : Service := ⟨"web", ⟨"web", .ofReplicas 1, some ⟨monitor⟩⟩, none⟩
    let scene (monitor : Nat) (state : TaskState) : Scene :=
      ⟨⟨0, service monitor⟩, ⟨0, [task state]⟩, ⟨0, [⟨"n", .ready⟩]⟩, 0⟩
    let h : History := ⟨⟨200, 900⟩, fun k =>
      scene (if k = 2 then 300 else 0) (if k = 1 then .starting else .running)⟩
    Output.recording.TakesAll .empty ∧ (∀ j, j < 4 → h.outcome? j = none) ∧
      h.outcome? 4 = some .stable ∧
      ∃ r, run Output.recording .empty ⟨200, 900⟩ none "web" h.script 8 =
          finish Output.recording (.done (.ok ()), r) ∧ r.calls .service = 5 ∧
        ∃ es, r.log = es ++ [.emitted 800 convergedNotice, .noted (.converged "web")] := by
  intro task service scene h
  have ho : Output.recording.TakesAll .empty := fun _ _ _ _ => rfl
  have hbefore : ∀ j, j < 4 → h.outcome? j = none := by decide +kernel
  have hx : h.outcome? 4 = some .stable := by decide +kernel
  obtain ⟨r, hrun, hcalls, hnotice, -⟩ :=
    (run_outcome ho h "web" 8).1 4 .stable (by decide) hbefore hx
  exact ⟨ho, hbefore, hx, r, hrun, hcalls, hnotice rfl⟩

end Rollout.Session
