import Rollout.Proofs.Session.Account
import Rollout.Proofs.Session.Discipline
import Rollout.Proofs.Session.Notices
import Rollout.Proofs.Update.Lines

/-!
What a session reports of its snapshots and of stability. Each tick that is carried out polls a
snapshot and shows the notices that its history has due; nothing else is shown under their id but
the line of a node of that name (`run_notices`).
-/

namespace Rollout.Session

/-- A poll, or an event under the id of the notices. -/
def Entry.isReport : Entry → Bool
  | .noted (.polled _ _ _) => true
  | .emitted _ e => e.id == verifyId
  | _ => false

def reportsOf (es : List Entry) : List Entry := es.filter Entry.isReport

theorem reportsOf_append (es fs : List Entry) :
    reportsOf (es ++ fs) = reportsOf es ++ reportsOf fs := List.filter_append ..

/-! ## Actions that report nothing -/

def Action.isQuiet : Action → Bool
  | .note (.polled _ _ _) => false
  | .emit e => e.id != verifyId
  | _ => true

theorem reportsOf_quiet {as : List Action} (ha : as.all Action.isQuiet = true) (now : Nat) :
    reportsOf (entriesOf (deedsFrom now as)) = [] := by
  refine List.filter_eq_nil_iff.2 fun x hx hreport => ?_
  obtain ⟨a, hmem, t, he⟩ := action_of_entry hx
  have hquiet := List.all_eq_true.1 ha a hmem
  cases a with
  | emit e =>
    cases he
    have hid : e.id = verifyId := by simpa [Entry.isReport] using hreport
    simp [Action.isQuiet, hid] at hquiet
  | note n =>
    cases he
    cases n with
    | polled => cases hquiet
    | _ => cases hreport
  | ask q =>
    cases he
    cases hreport
  | _ => cases he

theorem follow_quiet (w : Watch) (id : String) (status : Option UpdateStatus) :
    (w.follow id status).actions.all Action.isQuiet = true := by
  unfold Watch.follow
  repeat' split
  all_goals rfl

theorem quiet_of_follow {w : Watch} {id : String} {status : Option UpdateStatus}
    {as front : List Action} {v : Verdict} (hf : w.follow id status = ⟨as, v⟩)
    (hfront : front.all Action.isQuiet = true) : (front ++ as).all Action.isQuiet = true := by
  have ha := follow_quiet w id status
  rw [hf] at ha
  rw [List.all_append, hfront, ha]
  rfl

theorem detach_quiet (id : String) (b : Bool) :
    (detachActions id b).all Action.isQuiet = true := by
  cases b <;> rfl

/-- A tick reports only behind everything that it waits for. -/
def Tick.Splits (t : Tick) : Prop :=
  ∃ front back, t.actions = front ++ back ∧ front.all Action.isQuiet = true ∧
    back.all Action.isLocal = true

theorem Tick.Splits.after {t : Tick} (h : t.Splits) {as : List Action}
    (ha : as.all Action.isQuiet = true) : (t.after as).Splits := by
  obtain ⟨front, back, ht, hfront, hback⟩ := h
  refine ⟨as ++ front, back, ?_, ?_, hback⟩
  · rw [Tick.after, ht, List.append_assoc]
  · rw [List.all_append, ha, hfront]
    rfl

theorem splits_of_quiet {as : List Action} (ha : as.all Action.isQuiet = true) (v : Verdict) :
    Tick.Splits ⟨as, v⟩ := ⟨as, [], (List.append_nil as).symm, ha, rfl⟩

theorem splits_of_local {as : List Action} (ha : as.all Action.isLocal = true) (v : Verdict) :
    Tick.Splits ⟨as, v⟩ := ⟨[], as, rfl, rfl, ha⟩

theorem Reading.ask_splits {r : Reading α} {q : Request} {next : α → Tick}
    (h : ∀ a, (next a).Splits) : (r.ask q next).Splits := by
  unfold Reading.ask
  split
  · exact splits_of_quiet rfl _
  · exact splits_of_quiet rfl _
  · exact (h _).after rfl

theorem Watch.tick_splits (w : Watch) (id : String) (frame : Frame) (now : Nat) :
    (w.tick id frame now).Splits := by
  have hdoes := w.tick_does id frame now
  generalize w.tick id frame now = t at hdoes ⊢
  cases hdoes with
  | silent => exact splits_of_quiet rfl _
  | failed => exact splits_of_quiet rfl _
  | unrecognized => exact splits_of_quiet rfl _
  | ended _ _ hf => exact splits_of_quiet (quiet_of_follow hf rfl) _
  | stable _ _ hf => exact ⟨_, _, rfl, quiet_of_follow hf rfl, rfl⟩
  | polled _ _ hf =>
    refine Tick.Splits.after ?_ (quiet_of_follow hf rfl)
    refine Reading.ask_splits fun tasks => Reading.ask_splits fun nodes => ?_
    exact splits_of_local (isLocal_of_isAside (render_asides ..)) _

variable {o : Output σ} {m : Option Moment} {r r' : Run σ}

theorem reportsOf_unchanged {as : List Action} {now : Nat} (ha : as.all Action.isQuiet = true)
    (hlog : r'.log = r.log ++ entriesOf (deedsFrom now as)) :
    reportsOf r'.log = reportsOf r.log := by
  rw [hlog, reportsOf_append, reportsOf_quiet ha, List.append_nil]

/-- A session reports nothing while it carries out quiet actions, whatever becomes of them. -/
theorem Carried.reports_quiet {as : List Action} {acted : Next × Run σ} (h : Carried r as acted)
    (ha : as.all Action.isQuiet = true) : reportsOf acted.2.log = reportsOf r.log := by
  cases h with
  | through hlog _ => exact reportsOf_unchanged ha hlog
  | @refused done rest e x r' has hlog =>
    rw [has, List.all_append, List.all_cons, Bool.and_eq_true, Bool.and_eq_true] at ha
    exact reportsOf_unchanged (by rw [List.all_append, ha.1, List.all_cons, ha.2.1]; rfl) hlog
  | left has _ hlog _ =>
    rw [has, List.all_append, Bool.and_eq_true] at ha
    exact reportsOf_unchanged ha.1 hlog
  | stuck has hlog =>
    rw [has, List.all_append, Bool.and_eq_true] at ha
    exact reportsOf_unchanged ha.1 hlog

/-- What comes before a wait among the actions of a tick is quiet. -/
theorem Tick.Splits.before {t : Tick} (h : t.Splits) {done rest : List Action} {a : Action}
    (ht : t.actions = done ++ a :: rest) (ha : a.isLocal = false) :
    done.all Action.isQuiet = true := by
  obtain ⟨front, back, hsplit, hfront, hback⟩ := h
  rw [ht] at hsplit
  rcases List.append_eq_append_iff.1 hsplit with ⟨as, hf, -⟩ | ⟨as, -, hb⟩
  · rw [hf, List.all_append, Bool.and_eq_true] at hfront
    exact hfront.1
  · rw [hb, List.all_append, List.all_cons, ha, Bool.false_and, Bool.and_false] at hback
    cases hback

/-- A session that leaves a tick at a wait, or stays in it, has reported nothing of it. -/
theorem actAll_reports_stopped {t : Tick} {next : Next} (ht : t.Splits)
    (hact : r.actAll o m t.actions = (next, r')) (hn : next = .detach ∨ next = .stuck) :
    reportsOf r'.log = reportsOf r.log := by
  have hcarried := actAll_carried o m r t.actions
  rw [hact] at hcarried
  cases hcarried with
  | through => simp at hn
  | refused => simp at hn
  | left has ha hlog _ =>
    refine reportsOf_unchanged (ht.before has ?_) hlog
    rw [Bool.eq_false_iff]
    intro hlocal
    rw [isWait_of_isLocal hlocal] at ha
    cases ha
  | stuck has hlog => exact reportsOf_unchanged (ht.before has rfl) hlog

theorem detach_reports (o : Output σ) (m : Option Moment) (id : String) (r : Run σ) :
    reportsOf (detach o m id r).2.log = reportsOf r.log :=
  (actAll_carried o m r (detachActions id r.converged)).reports_quiet (detach_quiet ..)

/-! ## Ticks that are carried out -/

theorem entriesOf_asides {as : List Action} (ha : as.all Action.isAside = true) (now : Nat) :
    entriesOf (deedsFrom now as) = as.filterMap fun a => Deed.entry? ⟨now, a⟩ := by
  induction as with
  | nil => rfl
  | cons a as ih =>
    rw [List.all_cons, Bool.and_eq_true] at ha
    have hspan : a.span = 0 := by
      cases a <;> first | rfl | exact absurd ha.1 (by simp [Action.isAside])
    rw [deedsFrom, hspan, Nat.add_zero, entriesOf, List.filterMap_cons, List.filterMap_cons,
      ← entriesOf, ih ha.2]

theorem reportsOf_asides {as : List Action} (ha : as.all Action.isAside = true) (now : Nat)
    (bs : List Action) : reportsOf (entriesOf (deedsFrom now (as ++ bs))) =
      reportsOf (entriesOf (deedsFrom now as)) ++ reportsOf (entriesOf (deedsFrom now bs)) := by
  rw [deedsFrom_append, entriesOf_append, reportsOf_append, timeAfter_asides ha]

/-- What an update shows under the id of the notices. -/
def shownAsNotices (es : List Event) : List Event := es.filter fun e => e.id == verifyId

theorem reportsOf_emitted (es : List Event) (now : Nat) :
    reportsOf (es.map (.emitted now)) = (shownAsNotices es).map (.emitted now) := by
  rw [reportsOf, shownAsNotices, List.filter_map]
  rfl

theorem announce_reports (w : Watch) (id : String) (converged : Bool) (now : Nat) :
    reportsOf (entriesOf (deedsFrom now (w.announce id converged now 0).actions)) =
      List.map (.emitted now)
        (if converged then
          if now - w.since.getD now ≤ w.monitor then
            [waitingNotice (w.monitor - (now - w.since.getD now))] else []
        else if w.isConverged then [failureNotice] else []) := by
  unfold Watch.announce
  cases converged with
  | true =>
    simp only [Nat.add_zero, if_true]
    split <;> rfl
  | false =>
    cases w.isConverged <;> rfl

theorem render_reports {w : Watch} {service : Service} {u : Updater} {tasks : List Task}
    {nodes : List Node} {plan : Plan Updater} (id : String) (now : Nat)
    (hp : u.update? service ⟨tasks, activeNodes nodes, w.rollback⟩ = some plan) :
    reportsOf (entriesOf (deedsFrom now (w.render id service u tasks nodes now 0).actions)) =
      .noted (.polled tasks.length (activeNodes nodes).length w.rollback) ::
        ((shownAsNotices plan.events).map (.emitted now) ++
          reportsOf (entriesOf (deedsFrom now
            (({ w with updater := some plan.final } : Watch).announce id plan.converged now
              0).actions))) := by
  let shown := plan.events.map Action.emit
  let settled := (plan.tally.toList.map fun t => Action.note (.counted t)) ++
    [Action.settle plan.converged]
  have hshown : shown.all Action.isAside = true := by simp [shown, Action.isAside]
  have hsettled : settled.all Action.isAside = true := by simp [settled, Action.isAside]
  have hquiet : settled.all Action.isQuiet = true := by simp [settled, Action.isQuiet]
  have hemitted : entriesOf (deedsFrom now shown) = plan.events.map (.emitted now) := by
    rw [entriesOf_asides hshown, List.filterMap_map]
    exact congrFun List.filterMap_eq_map plan.events
  rw [render_eq id now 0 hp, Tick.after, List.append_assoc, reportsOf_asides rfl,
    List.append_assoc, reportsOf_asides hshown, reportsOf_asides hsettled, hemitted,
    reportsOf_emitted, reportsOf_quiet hquiet]
  rfl

theorem reportsOf_front {as : List Action} (ha : as.all Action.isQuiet = true) (now : Nat)
    (bs : List Action) : reportsOf (entriesOf (deedsFrom now (as ++ bs))) =
      reportsOf (entriesOf (deedsFrom (timeAfter now as) bs)) := by
  rw [deedsFrom_append, entriesOf_append, reportsOf_append, reportsOf_quiet ha, List.nil_append]

namespace History

/-- The note about the snapshot of tick `k`. -/
def poll (h : History) (k : Nat) : Entry :=
  .noted (.polled (h.view k).tasks.length (h.view k).active.length (h.isRollback k))

/-- What the update of tick `k` shows under the id of the notices. -/
def shown (h : History) (k : Nat) : List Event :=
  shownAsNotices (((h.plan? k).map Plan.events).getD [])

/-- What the journal reports of tick `k`. -/
def reports (h : History) (k : Nat) : List Entry :=
  h.poll k :: (h.shown k ++ h.notices k).map (.emitted (h.updated k))

end History

variable {h : History} {k : Nat} {w : Watch} {id : String}

theorem Tracks.since_eq (ht : Tracks h k w) (hc : h.converged k = true) :
    w.since.getD (h.updated k) = h.updated (h.onset k) := by
  cases hs : w.since with
  | none =>
    have hb : h.convergedBefore k = false := by
      rw [← ht.converged, Watch.isConverged, hs]
      rfl
    rw [History.onset_first hb]
    rfl
  | some t =>
    obtain ⟨j, hjk, hj, rfl⟩ := ht.since t hs
    rw [(hj.snoc hc).onset (by omega)]
    rfl

/-- The notices that a session shows behind an update are due by its history. -/
theorem Tracks.notices (ht : Tracks h k w) {plan : Plan Updater} (hp : h.plan? k = some plan) :
    reportsOf (entriesOf (deedsFrom (h.updated k)
      (({ h.watch k w with updater := some plan.final } : Watch).announce id plan.converged
        (h.updated k) 0).actions)) = (h.notices k).map (.emitted (h.updated k)) := by
  have hc : h.converged k = plan.converged := by
    rw [History.converged, hp]
    rfl
  have hbefore : ({ h.watch k w with updater := some plan.final } : Watch).isConverged =
      h.convergedBefore k := ht.converged
  rw [announce_reports, hbefore, History.notices, ← hc]
  congr 1
  cases hconverged : h.converged k with
  | true =>
    rw [History.elapsed, ← ht.since_eq hconverged]
    rfl
  | false => rfl

theorem Tracks.poll_reports (ht : Tracks h k w) (id : String) {u : Updater}
    (hu : h.updater? k = some u) {plan : Plan Updater} (hp : h.plan? k = some plan)
    (hlag : (h.scenes k).lag = 0) :
    reportsOf (entriesOf (deedsFrom (h.read k)
      ((h.watch k w).poll id (h.scenes k).frame (h.service k) u (h.read k)).actions)) =
        h.reports k := by
  have hplan := hp
  rw [History.plan?_of_updater hu] at hplan
  have hpoll : (h.watch k w).poll id (h.scenes k).frame (h.service k) u (h.read k) =
      ((h.watch k w).render id (h.service k) u (h.scenes k).tasks.value (h.scenes k).nodes.value
        (h.updated k) (h.scenes k).lag).after ((h.scenes k).frame.queries id) := rfl
  have htime : timeAfter (h.read k) ((h.scenes k).frame.queries id) = h.updated k := rfl
  have hshown : h.shown k = shownAsNotices plan.events := by
    rw [History.shown, hp]
    rfl
  rw [hpoll, Tick.after, reportsOf_front rfl, htime, hlag,
    render_reports (w := h.watch k w) id (h.updated k) hplan, ht.notices hp, ← List.map_append,
    ← hshown]
  rfl

/-- What the journal reports of a tick that goes on. -/
theorem Tracks.reports (ht : Tracks h k w) (id : String) (hx : h.outcome? k = none)
    (hlag : (h.scenes k).lag = 0) :
    reportsOf (entriesOf (deedsFrom (h.begins k)
      (w.tick id (h.scenes k).frame (h.begins k)).actions)) = h.reports k := by
  obtain ⟨next, hpasses⟩ := ht.tick_passes id hx
  have hv := hpasses.verdict
  have hdoes := w.tick_does id (h.scenes k).frame (h.begins k)
  generalize w.tick id (h.scenes k).frame (h.begins k) = t at hv hdoes ⊢
  clear hpasses
  cases hdoes with
  | ended _ _ _ _ hgo => exact absurd hv (hgo next)
  | @polled service u as w' hs hu hf ha _ =>
    cases hs
    obtain ⟨-, rfl⟩ := ht.followed_goOn hf
    have hread : timeAfter (h.begins k) ((h.scenes k).frame.reading id ++ as) = h.read k := by
      rw [timeAfter_append, timeAfter_asides ha]
      rfl
    have hupdater := ht.updater.symm.trans hu
    rw [Tick.after, reportsOf_front (quiet_of_follow hf rfl), hread]
    cases hp : h.plan? k with
    | none =>
      obtain ⟨bs, hpoll, -⟩ := poll_fails w id hupdater hp
      cases (congrArg Tick.verdict hpoll).symm.trans hv
    | some plan => exact ht.poll_reports id hupdater hp hlag
  | _ => cases hv

/-! ## The tick that a session ends with -/

/-- A query ends a tick quietly, or is answered. -/
theorem Reading.ask_cases (r : Reading α) (q : Request) (next : α → Tick) :
    (r.ask q next).actions.all Action.isQuiet = true ∨
      ∃ a, r.answer = some (.ok a) ∧ r.ask q next = (next a).after [.ask q, .wait r.delay] := by
  unfold Reading.ask
  split
  · exact .inl rfl
  · exact .inl rfl
  · rename_i a ha
    exact .inr ⟨a, ha, rfl⟩

/-- Behind the read of the service, a tick that does not go on reports nothing but a poll, where
there is no replica count. -/
theorem poll_ends {w : Watch} {id : String} {frame : Frame} {service : Service} {u : Updater}
    {now : Nat} {e : Ending} (h : (w.poll id frame service u now).verdict.ending? = some e) :
    (w.poll id frame service u now).actions.all Action.isQuiet = true ∨
      ∃ tasks nodes, frame.tasks.answer = some (.ok tasks) ∧
        frame.nodes.answer = some (.ok nodes) ∧ e = .done (.error .noReplicaCount) ∧
        (w.poll id frame service u now).actions = frame.queries id ++
          [.note (.polled tasks.length (activeNodes nodes).length w.rollback)] := by
  unfold Watch.poll at h ⊢
  rcases Reading.ask_cases frame.tasks (.tasks (.current id)) _ with hquiet | ⟨tasks, ht, htasks⟩
  · exact .inl hquiet
  rw [htasks] at h ⊢
  rcases Reading.ask_cases frame.nodes .nodes _ with hquiet | ⟨nodes, hn, hnodes⟩
  · refine .inl ?_
    rw [Tick.after, List.all_append, hquiet]
    rfl
  rw [hnodes] at h ⊢
  cases hp : u.update? service ⟨tasks, activeNodes nodes, w.rollback⟩ with
  | none =>
    rw [render_fails _ _ _ hp] at h ⊢
    cases h
    exact .inr ⟨tasks, nodes, ht, hn, rfl, rfl⟩
  | some plan =>
    obtain ⟨as, -, hr⟩ := render_goes id (now + frame.tasks.delay + frame.nodes.delay) frame.lag hp
    rw [hr] at h
    cases h

variable {script : Script} {options : Options} {n : Nat}

/-- A tick that does not go on is quiet, or says at last that the service converged, or has polled
a service without a replica count. -/
theorem Tracks.tick_closes (ht : Tracks (script.history options) n w) (id : String) {e : Ending}
    (hv : (w.tick id (script n) ((script.history options).begins n)).verdict.ending? = some e) :
    let h := script.history options
    let actions := (w.tick id (script n) (h.begins n)).actions
    actions.all Action.isQuiet = true ∨ ∃ front, front.all Action.isQuiet = true ∧
      (h.Held n ∧ timeAfter (h.begins n) front = h.read n ∧
          actions = front ++ [.emit convergedNotice, .note (.converged id)] ∨
        e = .done (.error .noReplicaCount) ∧ actions = front ++
          [.note (.polled (h.view n).tasks.length (h.view n).active.length (h.isRollback n))]) := by
  intro h actions
  have hdoes := w.tick_does id (script n) (h.begins n)
  simp only [actions]
  generalize w.tick id (script n) (h.begins n) = t at hv hdoes ⊢
  cases hdoes with
  | silent => exact .inl rfl
  | failed => exact .inl rfl
  | unrecognized => exact .inl rfl
  | ended _ _ hf => exact .inl (quiet_of_follow hf rfl)
  | @stable service u as w' hs _ hf ha hw =>
    obtain rfl := service_of_answer options hs
    obtain ⟨-, rfl⟩ := ht.followed_goOn hf
    have hread : timeAfter (h.begins n) ((script n).reading id ++ as) = h.read n := by
      rw [timeAfter_append, timeAfter_asides ha]
      rfl
    exact .inr ⟨_, quiet_of_follow hf rfl, .inl ⟨ht.isStable.1 hw, hread, rfl⟩⟩
  | @polled service u as w' hs _ hf ha hw =>
    obtain rfl := service_of_answer options hs
    obtain ⟨-, rfl⟩ := ht.followed_goOn hf
    rcases poll_ends hv with hall | ⟨tasks, nodes, htasks, hnodes, rfl, hactions⟩
    · refine .inl ?_
      rw [Tick.after, List.all_append, quiet_of_follow hf rfl, hall]
      rfl
    · obtain rfl := Reading.filled_value htasks []
      obtain rfl := Reading.filled_value hnodes []
      refine .inr ⟨(script n).reading id ++ as ++ (script n).queries id, ?_, .inr ⟨rfl, ?_⟩⟩
      · rw [List.all_append, quiet_of_follow hf rfl]
        rfl
      · rw [Tick.after, hactions, List.append_assoc _ ((script n).queries id)]
        rfl

/-- What is reported of the tick that a session ends with: nothing, a poll without a replica count,
or that the service converged, and then nothing follows but a note. -/
def Closes (h : History) (id : String) (n : Nat) (result : Ending × Run σ)
    (last : List Entry) : Prop :=
  last = [] ∨ last = [h.poll n] ∧ result.1 = .done (.error .noReplicaCount) ∨
    last = [.emitted (h.read n) convergedNotice] ∧ h.Held n ∧
      ∃ es, result.2.log = es ++ [.emitted (h.read n) convergedNotice, .noted (.converged id)]

theorem Halt.closes {result : Ending × Run σ}
    (hhalt : Halt o m id script n ((script.history options).watchAt id n) r result)
    (hr : Reached (script.history options) script id n r) (hunrefused : result.1.Unrefused) :
    ∃ last, reportsOf result.2.log = reportsOf r.log ++ last ∧
      Closes (script.history options) id n result last := by
  have hsplits := ((script.history options).watchAt id n).tick_splits id (script n) r.now
  have hnothing : reportsOf result.2.log = reportsOf r.log →
      ∃ last, reportsOf result.2.log = reportsOf r.log ++ last ∧
        Closes (script.history options) id n result last :=
    fun hlog => ⟨[], by rw [hlog, List.append_nil], .inl rfl⟩
  cases hhalt with
  | unfinished => exact hnothing rfl
  | detached => exact hnothing (detach_reports ..)
  | left _ hact =>
    exact hnothing ((detach_reports ..).trans (actAll_reports_stopped hsplits hact (.inl rfl)))
  | refused => exact absurd rfl (hunrefused _)
  | stuck _ hact => exact hnothing (actAll_reports_stopped hsplits hact (.inr rfl))
  | @ended r' e hi hact hv =>
    have hcarried := actAll_carried o m r
      (((script.history options).watchAt id n).tick id (script n) r.now).actions
    rw [hact] at hcarried
    rw [hr.now hi] at hv hcarried
    cases hcarried with
    | through hlog _ =>
      rw [hr.now hi] at hlog
      rcases hr.tracks.tick_closes id hv with
        hquiet | ⟨front, hquiet, ⟨hheld, hread, hactions⟩ | ⟨rfl, hactions⟩⟩
      · exact hnothing (reportsOf_unchanged hquiet hlog)
      · rw [hactions, deedsFrom_append, entriesOf_append, hread, ← List.append_assoc] at hlog
        refine ⟨_, ?_, .inr (.inr ⟨rfl, hheld, _, hlog⟩)⟩
        rw [hlog, reportsOf_append, reportsOf_append, reportsOf_quiet hquiet, List.append_nil]
        rfl
      · refine ⟨_, ?_, .inr (.inl ⟨rfl, rfl⟩)⟩
        rw [hlog, reportsOf_append, hactions, reportsOf_front hquiet]
        rfl

/-! ## Sessions -/

/-- What an update shows under an id that no slot has is the overall line, or the line of a node
with that short id, where the service is global. -/
theorem History.plan_line {plan : Plan Updater} (hp : h.plan? k = some plan) {e : Event}
    (he : e ∈ plan.events) (hoverall : e.id ≠ overallId) (hslash : '/' ∉ e.id.toList) :
    (h.service 0).replicas = none ∧ ∃ x ∈ tasksByNode (h.view k).tasks (h.view k).active,
      shortId x.1 = e.id ∧ e ∈ Update.unitLine e.id x.2 (h.isRollback k) := by
  obtain ⟨u, hu, hupdate⟩ := Option.bind_eq_some_iff.1 hp
  rcases Updater.update?_isLine hupdate he with ⟨replicas, hslot⟩ | ⟨⟨nodes, rfl⟩, hnode⟩
  · exfalso
    rcases hslot with hid | ⟨n, hunit⟩
    · exact hoverall hid
    · exact hslash (hunit ▸ Update.Slots.unitId_slash n replicas)
  · have hglobal := updater?_isReplicated hu
    refine ⟨Option.isSome_eq_false_iff.1 hglobal.symm |> Option.isNone_iff_eq_none.1, ?_⟩
    rcases hnode with hid | ⟨x, hx, hline⟩
    · exact absurd hid hoverall
    · have hshort : shortId x.1 = e.id := (Update.unitLine_id hline).symm
      exact ⟨x, hx, hshort, hshort ▸ hline⟩

/-- Nothing is shown under the id of the notices but lines of nodes with that short id, where the
service is global. -/
theorem History.shown_line {e : Event} (he : e ∈ h.shown k) :
    (h.service 0).replicas = none ∧ ∃ x ∈ tasksByNode (h.view k).tasks (h.view k).active,
      shortId x.1 = verifyId ∧ e ∈ Update.unitLine verifyId x.2 (h.isRollback k) := by
  rw [shown, shownAsNotices, List.mem_filter, beq_iff_eq] at he
  obtain ⟨he, hid⟩ := he
  cases hp : h.plan? k with
  | none =>
    rw [hp] at he
    cases he
  | some plan =>
    rw [hp] at he
    have hline := h.plan_line hp he (by rw [hid]; decide) (by rw [hid]; decide)
    rwa [hid] at hline

theorem ownRun_unrefused {new : σ} (ho : o.TakesAll new) (options : Options) (m : Option Moment)
    (id : String) (script : Script) (count : Nat) :
    (ownRun o new options m id script count).1.Unrefused := by
  have hover := (ownRun_over o new options m id script count).delivered
  rcases hover with ⟨-, hunrefused⟩ | ⟨event, x, t, ⟨es, s, htook, -, hrefused⟩, -⟩
  · exact hunrefused
  · have hok := ho es s event htook.fed
    rw [hrefused] at hok
    cases hok

theorem Reached.reports (hr : Reached (script.history options) script id n r)
    (hlag : ∀ k, (script k).lag = 0) :
    reportsOf r.log = (List.range n).flatMap (script.history options).reports := by
  rw [hr.log]
  show reportsOf ((List.range n).flatMap _) = _
  rw [reportsOf, List.filter_flatMap]
  refine List.flatMap_congr fun k hk => ?_
  have hkn := List.mem_range.1 hk
  have ht := (script.history options).tracks_watchAt id k fun i hi => hr.passed i (by omega)
  exact ht.reports id (hr.passed k hkn) (hlag k)

/-- What a session shows about stability, whatever its engine answers and whenever it is
interrupted. Its journal reports a poll for each tick that goes on, and under the id of the notices
the notices that are due and the lines of nodes of that name. Without those lines, the notices are a
word of their language. A failure is told of where an update fails to converge behind one that
converged. Behind an update that converges the countdown is told; only where the answers of the tick
have outlasted the window it is not, and then the tick is not the first one of its stretch. Where
the window is counted in a word, the number is that of the seconds that are left. In one stretch the
numbers do not increase while the window stays the same, and the first is that of the whole
window. -/
theorem run_notices {o : Output σ} {new : σ} (ho : o.TakesAll new) (options : Options)
    (m : Option Moment) (id : String) (script : Script) (hlag : ∀ k, (script k).lag = 0)
    (count : Nat) :
    let h := script.history options
    let whole := run o new options m id script count
    ∃ n last, (∀ k, k < n → (h.scenes k).frame = script k) ∧
      reportsOf whole.2.log = (List.range n).flatMap h.reports ++ last ∧
      Closes h id n whole last ∧
      (List.range n).flatMap h.notices ++ last.filterMap Entry.event? ∈ noticeWords ∧
      ∀ k, k < n →
        (∀ e ∈ h.shown k, (h.service 0).replicas = none ∧
          ∃ x ∈ tasksByNode (h.view k).tasks (h.view k).active,
            shortId x.1 = verifyId ∧ e ∈ Update.unitLine verifyId x.2 (h.isRollback k)) ∧
        (h.converged k = false →
          h.notices k = if h.convergedBefore k then [failureNotice] else []) ∧
        (h.converged k = true → ∃ j, h.Countdown j k) := by
  intro h whole
  obtain ⟨n, r, hr, hhalt⟩ := ownRun_account o new options m id script count
  obtain ⟨last, hreports, hcloses⟩ := hhalt.closes hr
    (ownRun_unrefused ho options m id script count)
  have hlog := (finish_spec o (ownRun o new options m id script count)).1
  have hwhole : Closes h id n whole last := by
    rcases hcloses with hnone | ⟨hpoll, hfailed⟩ | ⟨hnotice, hheld, hend⟩
    · exact .inl hnone
    · exact .inr (.inl ⟨hpoll, finish_failed o hfailed⟩)
    · exact .inr (.inr ⟨hnotice, hheld, hlog ▸ hend⟩)
  refine ⟨n, last, hr.answered, ?_, hwhole, ?_, fun k hk => ⟨fun e => History.shown_line,
    History.notices_lost, fun hc => History.countdown hc (h.not_held (hr.passed k hk))⟩⟩
  · rw [← hr.reports hlag, ← hreports]
    exact congrArg reportsOf hlog
  · obtain ⟨hword, hconverged⟩ := h.noticeWords_of_range n
    rcases hwhole with rfl | ⟨rfl, -⟩ | ⟨rfl, ⟨j, hjn, hs, -⟩, -⟩
    · exact (List.append_nil _).symm ▸ hword
    · exact (List.append_nil _).symm ▸ hword
    · exact hconverged (hs.convergedBefore hjn)

/-- A service that converges, leaves the running state once, converges again and stays so, in a
window that it set at its first read. -/
theorem run_notices_after_regression :
    let service (monitor : Nat) : Service := ⟨"web", ⟨"web", .ofReplicas 1, some ⟨monitor⟩⟩, none⟩
    let task (state : TaskState) : Task := ⟨"t", "web", "n", 1, .running, ⟨state, "", ""⟩⟩
    let script : Script := fun k =>
      ⟨.prompt (service (if k = 0 then 2000000000 else 0)),
        .prompt [task (if k = 1 then .starting else .running)], .prompt [⟨"n", .ready⟩], 0⟩
    let options : Options := ⟨700000000, 9000000000⟩
    let h := script.history options
    let whole := run Output.recording .empty options none "web" script 8
    Output.recording.TakesAll .empty ∧ (∀ k, (script k).lag = 0) ∧
      shownAsNotices whole.2.events =
        ["Waiting 3 seconds to verify that tasks are stable...", "Detected task failure",
          "Waiting 3 seconds to verify that tasks are stable...",
          "Waiting 2 seconds to verify that tasks are stable...",
          "Waiting 1 seconds to verify that tasks are stable...",
          "Service converged"].map (.act verifyId) ∧
      ∃ n last, reportsOf whole.2.log = (List.range n).flatMap h.reports ++ last ∧
        (List.range n).flatMap h.notices ++ last.filterMap Entry.event? ∈ noticeWords := by
  intro service task script options h whole
  have ho : Output.recording.TakesAll .empty := fun _ _ _ _ => rfl
  have hlag : ∀ k, (script k).lag = 0 := fun _ => rfl
  obtain ⟨n, last, -, hreports, -, hword, -⟩ := run_notices ho options none "web" script hlag 8
  exact ⟨ho, hlag, by decide +kernel, n, last, hreports, hword⟩

/-- A node with the name of the notices. Its line is shown among them, and is none of them. -/
theorem node_among_notices :
    let service : Service := ⟨"web", ⟨"web", .onEveryNode, none⟩, none⟩
    let task : Task := ⟨"t", "web", "verify", 0, .running, ⟨.starting, "", ""⟩⟩
    let script : Script := fun _ =>
      ⟨.prompt service, .prompt [task], .prompt [⟨"verify", .ready⟩], 0⟩
    let whole := run Output.recording .empty ⟨200, 500⟩ (some (.time 100)) "web" script 1
    Output.recording.TakesAll .empty ∧ (∀ k, (script k).lag = 0) ∧
      shownAsNotices whole.2.events ∉ noticeWords := by
  intro service task script whole
  refine ⟨fun _ _ _ _ => rfl, fun _ => rfl, fun hword => ?_⟩
  have hline : Event.withBar "verify" "starting " 8 9 ∈ shownAsNotices whole.2.events := by
    decide +kernel
  cases noticeWords_plain hword _ hline

end Rollout.Session
