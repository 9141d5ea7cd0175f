import Rollout.Proofs.Session.Outcome
import Rollout.Proofs.Session.Passage

/-!
The account of a session, whatever its engine answers, its output takes and interrupts it: the ticks
that it carried out, as its history tells them, and the tick that it ends with (`ownRun_account`).
-/

namespace Rollout

/-- A service that nothing is known of. -/
def Service.blank : Service := ⟨"", ⟨"", .blank, none⟩, none⟩

namespace Session

/-! ## The history of a script -/

/-- What a query is answered with, or something in its place. -/
def Reading.filled (r : Reading α) (blank : α) : Answer α where
  delay := r.delay
  value := match r.answer with
    | some (.ok a) => a
    | _ => blank

/-- The history of a session with a script. A tick that goes on was answered all its queries, so it
does not matter what stands for the answers that are missing. -/
def Script.history (script : Script) (options : Options) : History where
  options
  scenes k := ⟨(script k).service.filled .blank, (script k).tasks.filled [],
    (script k).nodes.filled [], (script k).lag⟩

variable {script : Script} {options : Options} {id : String} {k : Nat} {w w' : Watch}

theorem Reading.filled_value {r : Reading α} {a : α} (h : r.answer = some (.ok a)) (blank : α) :
    (r.filled blank).value = a := by
  simp only [Reading.filled, h]

theorem Reading.filled_reading {r : Reading α} {a : α} (h : r.answer = some (.ok a)) (blank : α) :
    (r.filled blank).reading = r := by
  rw [Answer.reading, Reading.filled_value h, ← h]
  rfl

theorem service_of_answer (options : Options) {service : Service}
    (h : (script k).service.answer = some (.ok service)) :
    (script.history options).service k = service :=
  Reading.filled_value h .blank

theorem frame_of_goOn (options : Options) {now : Nat}
    (h : (w.tick id (script k) now).verdict = .goOn w') :
    ((script.history options).scenes k).frame = script k := by
  obtain ⟨-, service, tasks, nodes, -, -, -, hs, ht, hn, -⟩ := w.tick_goOn h
  show (⟨((script k).service.filled .blank).reading, ((script k).tasks.filled []).reading,
    ((script k).nodes.filled []).reading, (script k).lag⟩ : Frame) = script k
  rw [Reading.filled_reading hs, Reading.filled_reading ht, Reading.filled_reading hn]

/-! ## Ticks in order -/

namespace History

/-- What a session remembers when a tick begins. -/
def watchAt (h : History) (id : String) : Nat → Watch
  | 0 => .start h.options.monitor
  | k + 1 =>
    match ((h.watchAt id k).tick id (h.scenes k).frame (h.begins k)).verdict with
    | .goOn w => w
    | _ => h.watchAt id k

def tickAt (h : History) (id : String) (k : Nat) : Tick :=
  (h.watchAt id k).tick id (h.scenes k).frame (h.begins k)

/-- What the journal says of a tick that is carried out. -/
def entriesAt (h : History) (id : String) (k : Nat) : List Entry :=
  entriesOf (deedsFrom (h.begins k) (h.tickAt id k).actions)

theorem watchAt_succ {h : History} (hv : (h.tickAt id k).verdict = .goOn w) :
    h.watchAt id (k + 1) = w := by
  rw [watchAt]
  split
  · rename_i w' hw'
    cases hv.symm.trans hw'
    rfl
  · rename_i hother
    exact absurd hv (hother w)

/-- Where no outcome was due before, a session remembers what its history tells. -/
theorem tracks_watchAt (h : History) (id : String) (k : Nat)
    (hx : ∀ i, i < k → h.outcome? i = none) : Tracks h k (h.watchAt id k) := by
  induction k with
  | zero => exact tracks_start h
  | succ k ih =>
    obtain ⟨w, hw⟩ := (ih fun i hi => hx i (by omega)).tick_passes id (hx k (by omega))
    rw [watchAt_succ hw.verdict]
    exact hw.tracks

end History

/-! ## Sessions -/

/-- A session that carried out the ticks before tick `k`: their queries were answered, no outcome
was due, and its journal is that of the ticks. -/
structure Reached (h : History) (script : Script) (id : String) (k : Nat) (r : Run σ) : Prop where
  answered : ∀ i, i < k → (h.scenes i).frame = script i
  passed : ∀ i, i < k → h.outcome? i = none
  log : r.log = .noted (.watching id) :: (List.range k).flatMap (h.entriesAt id)
  now : r.interrupted = false → r.now = h.begins k

variable {o : Output σ} {m : Option Moment} {r r' : Run σ} {h : History}

theorem Reached.tracks (hr : Reached h script id k r) : Tracks h k (h.watchAt id k) :=
  h.tracks_watchAt id k hr.passed

/-- A tick that goes on takes a session to the next one. -/
theorem Reached.next (hr : Reached (script.history options) script id k r)
    (hi : r.interrupted = false)
    (hact : r.actAll o m
      (((script.history options).watchAt id k).tick id (script k) r.now).actions = (.goOn, r'))
    (hv : (((script.history options).watchAt id k).tick id (script k) r.now).verdict = .goOn w) :
    w = (script.history options).watchAt id (k + 1) ∧
      Reached (script.history options) script id (k + 1)
        (r'.act o m (.wait options.interval)).2 := by
  have hframe := frame_of_goOn options hv
  rw [hr.now hi, ← hframe] at hact hv
  have htick : ((script.history options).tickAt id k).verdict = .goOn w := hv
  generalize hh : script.history options = h at hr hact htick hframe ⊢
  have hpasses : h.outcome? k = none ∧
      timeAfter (h.begins k) (h.tickAt id k).actions = h.updated k := by
    have hcases := hr.tracks.tick id
    cases hx : h.outcome? k with
    | some x =>
      rw [hx] at hcases
      cases x <;> cases htick.symm.trans hcases.verdict
    | none =>
      rw [hx] at hcases
      obtain ⟨_, hp⟩ := hcases
      exact ⟨rfl, hp.time⟩
  have hcarried := actAll_carried o m r (h.tickAt id k).actions
  rw [History.tickAt, hact] at hcarried
  cases hcarried with
  | through hlog hnow =>
    obtain ⟨hpause, htime, -⟩ := wait_spec o m r' options.interval
    refine ⟨(History.watchAt_succ htick).symm, Nat.forall_lt_succ_right.2 ⟨hr.answered, hframe⟩,
      Nat.forall_lt_succ_right.2 ⟨hr.passed, hpasses.1⟩, ?_, ?_⟩
    · rw [hpause, hlog, hr.log, hr.now hi, List.range_succ, List.flatMap_append,
        List.flatMap_singleton, List.cons_append]
      rfl
    · intro hi'
      have hoptions : h.options.interval = options.interval := by rw [← hh]; rfl
      rw [htime hi', hnow, hr.now hi]
      show timeAfter (h.begins k) (h.tickAt id k).actions + options.interval = h.begins (k + 1)
      rw [hpasses.2, ← hoptions]
      rfl

theorem Passage.account {result : Ending × Run σ}
    (hp : Passage o options m id script k w r result)
    (hw : w = (script.history options).watchAt id k)
    (hr : Reached (script.history options) script id k r) :
    ∃ n last, Reached (script.history options) script id n last ∧
      Halt o m id script n ((script.history options).watchAt id n) last result := by
  induction hp with
  | halt hhalt => exact ⟨_, _, hr, hw ▸ hhalt⟩
  | next hi hact hv _ ih =>
    subst hw
    obtain ⟨hw', hr'⟩ := hr.next hi hact hv
    exact ih hw' hr'

/-- A session carries out some ticks, and ends with the next one. -/
theorem ownRun_account (o : Output σ) (new : σ) (options : Options) (m : Option Moment)
    (id : String) (script : Script) (count : Nat) :
    ∃ n last, Reached (script.history options) script id n last ∧
      Halt o m id script n ((script.history options).watchAt id n) last
        (ownRun o new options m id script count) := by
  refine (ticks_passage o options m id script count 0 (.start options.monitor) _).account rfl ?_
  obtain ⟨hlog, hnow, -⟩ := begin_spec new m id
  exact ⟨fun i hi => absurd hi (Nat.not_lt_zero i), fun i hi => absurd hi (Nat.not_lt_zero i), hlog,
    fun _ => hnow⟩

/-! ## Sessions that succeed -/

theorem own_of_finish_ok {own : Ending × Run σ} (h : (finish o own).1 = .done (.ok ())) :
    own.1 = .done (.ok ()) := by
  obtain ⟨e, r⟩ := own
  cases e with
  | unfinished => cases h
  | done result =>
    cases result with
    | ok => rfl
    | error f => cases h

/-- A session that succeeds without an interruption ends with a tick that finishes. -/
theorem Halt.finishes {n : Nat} {result : Ending × Run σ} (h : Halt o m id script n w r result)
    (hok : result.1 = .done (.ok ())) (hi : result.2.interrupted = false) :
    r.interrupted = false ∧
      r.actAll o m (w.tick id (script n) r.now).actions = (.goOn, result.2) ∧
      (w.tick id (script n) r.now).verdict = .finish := by
  cases h with
  | unfinished => cases hok
  | detached hdetached =>
    rw [(detach_acted o m id r).interrupted hdetached] at hi
    cases hi
  | @left r' _ hact =>
    have hleft : r'.interrupted = true := by
      have hdetach := actAll_detach (congrArg Prod.fst hact)
      rwa [hact] at hdetach
    rw [(detach_acted o m id r').interrupted hleft] at hi
    cases hi
  | refused => cases hok
  | stuck => cases hok
  | @ended r' e hr hact hv =>
    obtain rfl : e = .done (.ok ()) := hok
    refine ⟨hr, hact, ?_⟩
    generalize (w.tick id (script n) r.now).verdict = v at hv
    cases v <;> cases hv
    rfl

/-- At a tick that finishes, the service was read and an outcome was due that is no failure. -/
theorem Reached.finished (hr : Reached (script.history options) script id k r)
    (hi : r.interrupted = false)
    (hv : (((script.history options).watchAt id k).tick id (script k) r.now).verdict = .finish) :
    let h := script.history options
    let actions := ((h.watchAt id k).tick id (script k) r.now).actions
    (script k).service.answer = some (.ok (h.service k)) ∧ h.convergedBefore k = true ∧
      (h.outcome? k = some .finished ∨ h.outcome? k = some .stable) ∧
      actions.countP (Action.isAsk .service) = 1 ∧ actions.countP (Action.isAsk .nodes) = 0 := by
  intro h actions
  have ht := hr.tracks
  obtain ⟨hconverged, hnodes⟩ := Watch.tick_finish hv
  rw [ht.converged] at hconverged
  have hdoes := (h.watchAt id k).tick_does id (script k) r.now
  simp only [actions]
  rw [hr.now hi] at hv hdoes hnodes ⊢
  generalize (h.watchAt id k).tick id (script k) (h.begins k) = t at hv hdoes hnodes ⊢
  cases hdoes with
  | @ended service u as v hs hu hf ha =>
    obtain rfl := service_of_answer options hs
    have hfollowed := ht.followed hf
    refine ⟨hs, hconverged, ?_, by simp [List.countP_append, asides_ask ha], hnodes⟩
    rw [outcome?_recognized ht (ht.updater.symm.trans hu)]
    cases hx : statusOutcome? (h.convergedBefore k) (h.service k).updateStatus with
    | none =>
      rw [hx] at hfollowed
      cases hv.symm.trans hfollowed
    | some x =>
      rw [hx] at hfollowed
      cases x with
      | failed f => cases hv.symm.trans hfollowed
      | finished => exact .inl rfl
      | stable => exact .inr rfl
  | @stable service u as w' hs hu hf ha hw =>
    obtain rfl := service_of_answer options hs
    obtain ⟨hx, rfl⟩ := ht.followed_goOn hf
    refine ⟨hs, hconverged, .inr ?_,
      by simp [List.countP_append, Action.isAsk, asides_ask ha], hnodes⟩
    rw [outcome?_recognized ht (ht.updater.symm.trans hu), hx, Option.none_or,
      if_pos (ht.isStable.1 hw)]
  | polled => exact (poll_ne_finish _ _ _ _ _ _ hv).elim
  | _ => cases hv

/-- Every tick that a session carried out has asked each query once. -/
theorem Reached.calls (hr : Reached h script id k r) :
    r.calls .service = k ∧ r.calls .nodes = k := by
  have hticks : ∀ q, (∀ i, i < k → (h.tickAt id i).actions.countP (Action.isAsk q) = 1) →
      ((List.range k).flatMap (h.entriesAt id)).countP (Entry.isAsked q) = k := by
    intro q hq
    have hone : ∀ i ∈ List.range k, (List.countP (Entry.isAsked q) ∘ h.entriesAt id) i = 1 :=
      fun i hi => (countP_deedsFrom ..).trans (hq i (List.mem_range.1 hi))
    rw [List.countP_flatMap, List.map_congr_left hone]
    rw [List.map_const', List.length_range, List.sum_replicate_nat, Nat.mul_one]
  have hcalls : ∀ q, r.calls q = ((List.range k).flatMap (h.entriesAt id)).countP
      (Entry.isAsked q) := by
    intro q
    rw [Run.calls, countP_journal _ _ (by simp [Entry.isAsked]), hr.log, List.countP_cons]
    simp [Entry.isAsked]
  have hpasses : ∀ i, i < k → ∃ w, (h.tickAt id i).Passes h i id w := fun i hi =>
    (h.tracks_watchAt id i fun j hj => hr.passed j (by omega)).tick_passes id (hr.passed i hi)
  rw [hcalls, hcalls, hticks, hticks]
  · exact ⟨rfl, rfl⟩
  · intro i hi
    obtain ⟨w, hw⟩ := hpasses i hi
    exact (Watch.tick_goOn hw.verdict).1
  · intro i hi
    obtain ⟨w, hw⟩ := hpasses i hi
    exact hw.once

/-- A session that succeeds without an interruption, after `n` ticks that went on: they were
answered, the last one of them converged, and the update status or a stable service ends the session
with the next read of the service. -/
structure Succeeded (script : Script) (options : Options) (n : Nat) (r : Run σ) : Prop where
  reads : r.calls .service = n + 1
  snapshots : r.calls .nodes = n
  answered : ∀ i, i < n → ((script.history options).scenes i).frame = script i
  read : (script n).service.answer = some (.ok ((script.history options).service n))
  converged : (script.history options).convergedBefore n = true
  outcome : (script.history options).outcome? n = some .finished ∨
    (script.history options).outcome? n = some .stable

theorem run_succeeds {new : σ} {count : Nat}
    (hok : (run o new options m id script count).1 = .done (.ok ()))
    (hi : (run o new options m id script count).2.interrupted = false) :
    ∃ n, Succeeded script options n (run o new options m id script count).2 := by
  let own := ownRun o new options m id script count
  have hwhole : run o new options m id script count = finish o own := rfl
  rw [hwhole] at hok hi ⊢
  rw [(finish_spec o own).2] at hi
  obtain ⟨n, r, hr, hhalt⟩ := ownRun_account o new options m id script count
  obtain ⟨hri, hact, hv⟩ := hhalt.finishes (own_of_finish_ok hok) hi
  obtain ⟨hread, hconverged, houtcome, hreads, hnodes⟩ := hr.finished hri hv
  have hcalls := actAll_calls (congrArg Prod.fst hact)
  rw [hact] at hcalls
  have hfinish := (finish_settled o id own).2
  refine ⟨n, ?_, ?_, hr.answered, hread, hconverged, houtcome⟩
  · rw [hfinish, hcalls, hr.calls.1, hreads]
  · rw [hfinish, hcalls, hr.calls.2, hnodes, Nat.add_zero]

end Session
end Rollout
