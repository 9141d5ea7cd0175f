import Rollout.Proofs.Session.Reports

/-!
What the journal says of a tick. A tick that goes on asks for the service, tells of a rollback that
has begun, asks for the tasks and the nodes, polls them with the rollback flag of its history, shows
the lines of its update and last the notices about stability (`History.entriesAt_eq`).
-/

namespace Rollout.Session

/-! ## The notice of a rollback -/

/-- The notice that a session shows with an update status, where a rollback was under way before or
not. -/
def rollbackNotice (before : Bool) (status : Option UpdateStatus) : List Event :=
  match status with
  | some ⟨.rollbackStarted, message⟩ =>
    if !before && message != "" then [.act rollbackId message] else []
  | _ => []

theorem rollbackNotice_id {before : Bool} {status : Option UpdateStatus} {e : Event}
    (he : e ∈ rollbackNotice before status) : e.id = rollbackId := by
  unfold rollbackNotice at he
  repeat' split at he
  · rw [List.mem_singleton.1 he]
    rfl
  · cases he
  · cases he

/-- What a session does with an update status: it shows the notice that is due, and behind it notes
at most that the update is completed, where it does not go on. -/
theorem follow_notice (w : Watch) (id : String) (status : Option UpdateStatus) :
    ∃ notes : List Note, (w.follow id status).actions =
        (rollbackNotice w.rollback status).map .emit ++ notes.map .note ∧
      (∀ n ∈ notes, n = .completed id) ∧
      ∀ w', (w.follow id status).verdict = .goOn w' → notes = [] := by
  cases status with
  | none => exact ⟨[], rfl, by simp, fun _ _ => rfl⟩
  | some status =>
    obtain ⟨state, message⟩ := status
    cases state with
    | completed =>
      simp only [Watch.follow]
      split
      · exact ⟨[.completed id], rfl, by simp, fun _ h => by cases h⟩
      · exact ⟨[], rfl, by simp, fun _ _ => rfl⟩
    | rollbackStarted =>
      refine ⟨[], ?_, by simp, fun _ _ => rfl⟩
      simp only [Watch.follow, rollbackNotice]
      split <;> rfl
    | rollbackCompleted =>
      simp only [Watch.follow]
      split <;> exact ⟨[], rfl, by simp, fun _ _ => rfl⟩
    | _ => exact ⟨[], rfl, by simp, fun _ _ => rfl⟩

namespace History

/-- Was a rollback under way when tick `k` began? -/
def rollbackBefore (h : History) : Nat → Bool
  | 0 => false
  | k + 1 => h.isRollback k

/-- The notice of a rollback that is due at tick `k`. -/
def rollbackNotice (h : History) (k : Nat) : List Event :=
  Session.rollbackNotice (h.rollbackBefore k) (h.service k).updateStatus

end History

/-! ## Rollbacks from tick to tick -/

theorem poll_rollback {w w' : Watch} {id : String} {frame : Frame} {service : Service} {u : Updater}
    {now : Nat} (h : (w.poll id frame service u now).verdict = .goOn w') :
    w'.rollback = w.rollback := by
  obtain ⟨tasks, -, hnodes, -⟩ := Reading.ask_inv h (by simp) (by simp)
  obtain ⟨nodes, -, hrender, -⟩ := Reading.ask_inv hnodes (by simp) (by simp)
  cases hp : u.update? service ⟨tasks, activeNodes nodes, w.rollback⟩ with
  | none =>
    rw [render_fails _ _ _ hp] at hrender
    cases hrender
  | some plan =>
    obtain ⟨as, -, hr⟩ := render_goes id (now + frame.tasks.delay + frame.nodes.delay) frame.lag hp
    rw [hr] at hrender
    cases hrender
    rfl

variable {h : History} {k : Nat} {w w' : Watch} {id : String}

theorem Tracks.tick_rollback (ht : Tracks h k w)
    (hv : (w.tick id (h.scenes k).frame (h.begins k)).verdict = .goOn w') :
    w'.rollback = h.isRollback k := by
  have hdoes := w.tick_does id (h.scenes k).frame (h.begins k)
  generalize w.tick id (h.scenes k).frame (h.begins k) = t at hv hdoes
  cases hdoes with
  | ended _ _ _ _ hgo => exact absurd hv (hgo w')
  | polled hs _ hf =>
    cases hs
    obtain ⟨-, rfl⟩ := ht.followed_goOn hf
    exact poll_rollback hv
  | _ => cases hv

/-- A session remembers of a rollback what its history tells. -/
theorem History.watchAt_rollback (hx : ∀ i, i < k → h.outcome? i = none) :
    (h.watchAt id k).rollback = h.rollbackBefore k := by
  cases k with
  | zero => rfl
  | succ k =>
    have ht := h.tracks_watchAt id k fun i hi => hx i (by omega)
    obtain ⟨w, hw⟩ := ht.tick_passes id (hx k (by omega))
    rw [watchAt_succ hw.verdict]
    exact ht.tick_rollback hw.verdict

/-! ## The parts of a tick -/

/-- Is an entry a note, or a notice about stability? -/
def Entry.isVerdict : Entry → Bool
  | .noted _ => true
  | .emitted _ e => e.id == verifyId
  | _ => false

theorem entriesOf_emits (es : List Event) (now : Nat) :
    entriesOf (deedsFrom now (es.map .emit)) = es.map (.emitted now) := by
  rw [entriesOf_asides (by simp [Action.isAside]), List.filterMap_map]
  exact congrFun List.filterMap_eq_map es

theorem entriesOf_front {as : List Action} (ha : as.all Action.isAside = true) (now : Nat)
    (bs : List Action) : entriesOf (deedsFrom now (as ++ bs)) =
      entriesOf (deedsFrom now as) ++ entriesOf (deedsFrom now bs) := by
  rw [deedsFrom_append, entriesOf_append, timeAfter_asides ha]

/-- A tick whose service is read asks for it, and tells of a rollback that has begun. -/
theorem opening_entries {frame : Frame} (hdelay : frame.service.delay = (h.scenes k).service.delay)
    (bs : List Action) :
    entriesOf (deedsFrom (h.begins k)
      (frame.reading id ++ ((h.rollbackNotice k).map Action.emit ++ bs))) =
      .asked (.service id) :: ((h.rollbackNotice k).map (.emitted (h.read k)) ++
        entriesOf (deedsFrom (h.read k) bs)) := by
  have hread : timeAfter (h.begins k) (frame.reading id) = h.read k := by
    rw [History.read, ← hdelay]
    rfl
  have hnotice : ((h.rollbackNotice k).map Action.emit).all Action.isAside = true := by
    simp [Action.isAside]
  rw [deedsFrom_append, entriesOf_append, hread, entriesOf_front hnotice, entriesOf_emits]
  rfl

/-- What a session that goes on from the update status has done of it. -/
theorem follow_goes {w' : Watch} {as : List Action} (hrollback : w.rollback = h.rollbackBefore k)
    (hf : (w.observe (h.service k)).follow id (h.service k).updateStatus = ⟨as, .goOn w'⟩) :
    as = (h.rollbackNotice k).map .emit := by
  obtain ⟨notes, hactions, -, hgo⟩ :=
    follow_notice (w.observe (h.service k)) id (h.service k).updateStatus
  rw [hf] at hactions hgo
  rw [hgo w' rfl] at hactions
  rw [History.rollbackNotice, ← hrollback]
  exact hactions.trans (List.append_nil _)

/-- Behind the lines of an update come counts and what is told of stability. -/
theorem announce_isVerdict (w : Watch) (id : String) (converged : Bool) (now lag : Nat) :
    ∀ x ∈ entriesOf (deedsFrom now (w.announce id converged now lag).actions),
      x.isVerdict = true := by
  intro x hx
  obtain ⟨a, ha, t, he⟩ := action_of_entry hx
  unfold Watch.announce at ha
  dsimp only at ha
  split at ha
  · split at ha
    · obtain rfl := List.mem_singleton.1 ha
      cases he
      rfl
    · cases ha
  · split at ha
    · rcases List.mem_cons.1 ha with rfl | ha
      · cases he
        rfl
      · obtain rfl := List.mem_singleton.1 ha
        cases he
        rfl
    · cases ha

theorem render_entries {w : Watch} {service : Service} {u : Updater} {tasks : List Task}
    {nodes : List Node} {plan : Plan Updater} (id : String) (now lag : Nat)
    (hp : u.update? service ⟨tasks, activeNodes nodes, w.rollback⟩ = some plan) :
    ∃ rest, entriesOf (deedsFrom now (w.render id service u tasks nodes now lag).actions) =
        .noted (.polled tasks.length (activeNodes nodes).length w.rollback) ::
          (plan.events.map (.emitted now) ++ rest) ∧
      ∀ x ∈ rest, x.isVerdict = true := by
  let counted := plan.tally.toList.map fun t => Action.note (.counted t)
  have hcounted : (counted ++ [Action.settle plan.converged]).all Action.isAside = true := by
    simp [counted, Action.isAside]
  have hevents : (plan.events.map Action.emit).all Action.isAside = true := by
    simp [Action.isAside]
  rw [render_eq id now lag hp, Tick.after, List.append_assoc, List.append_assoc,
    entriesOf_front rfl, entriesOf_front hevents, entriesOf_front hcounted, entriesOf_emits]
  refine ⟨_, rfl, fun x hx => ?_⟩
  rcases List.mem_append.1 hx with hx | hx
  · obtain ⟨a, ha, t, he⟩ := action_of_entry hx
    rcases List.mem_append.1 ha with ha | ha
    · obtain ⟨tally, -, rfl⟩ := List.mem_map.1 ha
      cases he
      rfl
    · obtain rfl := List.mem_singleton.1 ha
      cases he
  · exact announce_isVerdict _ _ _ _ _ x hx

/-- The journal of a tick at which no outcome is due. -/
theorem History.entriesAt_eq (id : String) (hx : ∀ i, i ≤ k → h.outcome? i = none) :
    ∃ plan rest, h.plan? k = some plan ∧ (∀ x ∈ rest, x.isVerdict = true) ∧
      h.entriesAt id k = .asked (.service id) :: ((h.rollbackNotice k).map (.emitted (h.read k)) ++
        .asked (.tasks (.current id)) :: .asked .nodes :: h.poll k ::
          (plan.events.map (.emitted (h.updated k)) ++ rest)) := by
  have ht := h.tracks_watchAt id k fun i hi => hx i (by omega)
  have hrollback : (h.watchAt id k).rollback = h.rollbackBefore k :=
    watchAt_rollback fun i hi => hx i (by omega)
  obtain ⟨next, hpasses⟩ := ht.tick_passes id (hx k (by omega))
  have hv := hpasses.verdict
  have hdoes := (h.watchAt id k).tick_does id (h.scenes k).frame (h.begins k)
  rw [entriesAt, tickAt]
  generalize (h.watchAt id k).tick id (h.scenes k).frame (h.begins k) = t at hv hdoes ⊢
  clear hpasses
  cases hdoes with
  | ended _ _ _ _ hgo => exact absurd hv (hgo next)
  | @polled service u as w' hs hu hf _ _ =>
    cases hs
    obtain rfl := follow_goes hrollback hf
    obtain ⟨-, rfl⟩ := ht.followed_goOn hf
    have hupdater := ht.updater.symm.trans hu
    rw [Tick.after, List.append_assoc, opening_entries rfl]
    cases hp : h.plan? k with
    | none =>
      obtain ⟨bs, hpoll, -⟩ := poll_fails (h.watchAt id k) id hupdater hp
      cases (congrArg Tick.verdict hpoll).symm.trans hv
    | some plan =>
      have hplan := hp
      rw [plan?_of_updater hupdater] at hplan
      obtain ⟨rest, hrender, hrest⟩ := render_entries (w := h.watch k (h.watchAt id k)) id
        (h.updated k) (h.scenes k).lag hplan
      refine ⟨plan, rest, rfl, hrest, ?_⟩
      congr 2
      have hqueries : ∀ bs, entriesOf (deedsFrom (h.read k) ((h.scenes k).frame.queries id ++ bs)) =
          .asked (.tasks (.current id)) :: .asked .nodes ::
            entriesOf (deedsFrom (h.updated k) bs) := fun _ => rfl
      exact (hqueries _).trans (congrArg (_ :: _ :: ·) hrender)
  | _ => cases hv

/-- The journal of a tick at which the service is stable: it says so once the service was read. -/
theorem History.entriesAt_stable (id : String) (hx : ∀ i, i < k → h.outcome? i = none)
    (hstable : h.outcome? k = some .stable) :
    h.entriesAt id k = .asked (.service id) :: ((h.rollbackNotice k).map (.emitted (h.read k)) ++
      [.emitted (h.read k) convergedNotice, .noted (.converged id)]) := by
  have ht := h.tracks_watchAt id k hx
  have hrollback : (h.watchAt id k).rollback = h.rollbackBefore k := watchAt_rollback hx
  have hends := ht.tick_ends id hstable
  have hdoes := (h.watchAt id k).tick_does id (h.scenes k).frame (h.begins k)
  rw [entriesAt, tickAt]
  generalize (h.watchAt id k).tick id (h.scenes k).frame (h.begins k) = t at hends hdoes ⊢
  obtain ⟨as, hnotice, -⟩ := hends.notice rfl
  have hquiet : .note (.converged id) ∈ t.actions := by simp [hnotice]
  have hv := hends.verdict
  clear hnotice hends
  cases hdoes with
  | ended _ _ _ ha => simp [Frame.reading, asides_converged ha] at hquiet
  | stable hs _ hf =>
    cases hs
    obtain rfl := follow_goes hrollback hf
    rw [List.append_assoc, opening_entries rfl]
    rfl
  | polled => exact absurd hv (poll_ne_finish _ _ _ _ _ _)
  | _ => cases hv

end Rollout.Session
