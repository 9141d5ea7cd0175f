import Rollout.Proofs.Update.Attempt

/-!
What one update of a global service does to its latch. While the latch holds and all nodes were
seen running, an update shows nothing; any other update after the first tasks closes with the
overall line, which sets the latch if all nodes run.
-/

namespace Rollout.Update.Nodes

variable {s : Nodes} {rollback : Bool} {units : List (String × Task)} {view : View}

theorem wake_settled (s : Nodes) (units : List (String × Task)) :
    (s.wake units).settled = (s.settled && !hasRegressed units) := rfl

theorem progress_quiet (hq : (s.wake units).settled = true) :
    (s.progress rollback units).emissions = [] ∧
      (s.progress rollback units).final.settled = true := by
  simp [progress, hq, unitEvents]

theorem progress_loud (rollback : Bool) (hq : (s.wake units).settled = false) :
    (∃ es, (s.progress rollback units).events =
        es ++ [overall (countRunning units) units.length rollback]) ∧
      (s.progress rollback units).final.settled = (countRunning units == units.length) := by
  simp [progress, hq, Plan.events]

theorem progress_held {e : Emission Nodes} (he : e ∈ (s.progress rollback units).emissions) :
    e.held.settled = false := by
  rw [Bool.eq_false_iff]
  intro hset
  have hwake : (s.wake units).settled = true := by
    unfold progress at he
    obtain ⟨event, -, rfl⟩ := List.mem_map.1 he
    exact hset
  rw [(progress_quiet hwake).1] at he
  cases he

theorem progress_converged (s : Nodes) (rollback : Bool) (units : List (String × Task)) :
    (s.progress rollback units).converged = (countRunning units == units.length) := rfl

/-- An update waits for the first tasks, begins with them, or goes on. -/
theorem update_cases (s : Nodes) (view : View) :
    let units := tasksByNode view.tasks view.active
    (s.started = false ∧ units = [] ∧ s.update view = ⟨[⟨waiting, s⟩], s, false, none⟩) ∨
    (s.started = false ∧ units ≠ [] ∧ s.update view =
      let rest := ({ s with started := true } : Nodes).progress view.rollback units
      { rest with emissions := ⟨overall 0 units.length view.rollback, s⟩ :: rest.emissions }) ∨
    (s.started = true ∧ s.update view = s.progress view.rollback units) := by
  intro units
  unfold update
  cases hs : s.started with
  | true => exact .inr (.inr ⟨rfl, rfl⟩)
  | false =>
    by_cases hu : units = []
    · exact .inl ⟨rfl, hu, by simp [units] at hu; simp [hu]⟩
    · refine .inr (.inl ⟨rfl, hu, ?_⟩)
      simp only [Bool.false_eq_true, if_false, List.isEmpty_iff]
      exact if_neg hu

/-- While the latch holds, an update shows nothing. -/
theorem update_quiet (hs : s.started = true)
    (hq : (s.wake (tasksByNode view.tasks view.active)).settled = true) :
    (s.update view).emissions = [] ∧ (s.update view).final.settled = true := by
  rw [update, if_pos hs]
  exact progress_quiet hq

/-- While it does not, an update closes with the overall line once the first tasks were seen. -/
theorem update_loud (hq : (s.wake (tasksByNode view.tasks view.active)).settled = false)
    (hstarted : (s.update view).final.started = true) :
    let units := tasksByNode view.tasks view.active
    (∃ es, (s.update view).events =
        es ++ [overall (countRunning units) units.length view.rollback]) ∧
      (s.update view).final.settled = (countRunning units == units.length) := by
  intro units
  rcases update_cases s view with ⟨hs, -, hx⟩ | ⟨-, -, hx⟩ | ⟨-, hx⟩
  · rw [hx] at hstarted
    rw [hs] at hstarted
    cases hstarted
  · obtain ⟨⟨es, hes⟩, hfinal⟩ :=
      progress_loud (s := { s with started := true }) view.rollback hq
    rw [hx]
    refine ⟨⟨overall 0 units.length view.rollback :: es, ?_⟩, hfinal⟩
    exact congrArg (overall 0 units.length view.rollback :: ·) hes
  · rw [hx]
    exact progress_loud view.rollback hq

/-- No event is shown while the latch holds. -/
theorem update_held (hs : s.settled = true → s.started = true) {e : Emission Nodes}
    (he : e ∈ (s.update view).emissions) : e.held.settled = false := by
  have hnew : s.started = false → s.settled = false := by
    intro hst
    rw [Bool.eq_false_iff]
    intro hset
    rw [hs hset] at hst
    cases hst
  rcases update_cases s view with ⟨hst, -, hx⟩ | ⟨hst, -, hx⟩ | ⟨-, hx⟩
  · rw [hx, List.mem_singleton] at he
    rw [he]
    exact hnew hst
  · rw [hx] at he
    rcases List.mem_cons.1 he with rfl | he
    · exact hnew hst
    · exact progress_held he
  · rw [hx] at he
    exact progress_held he

theorem update_settled (hs : s.settled = true → s.started = true) :
    (s.update view).final.settled = true → (s.update view).final.started = true := by
  rcases update_cases s view with ⟨-, -, hx⟩ | ⟨-, -, hx⟩ | ⟨hst, hx⟩
  · rw [hx]
    exact hs
  · rw [hx]
    exact fun _ => rfl
  · rw [hx]
    exact fun _ => hst

/-! ## When a global service counts as converged -/

theorem countRunning_eq_length (units : List (String × Task)) :
    countRunning units = units.length ↔ ∀ x ∈ units, x.2.isRunning = true := by
  rw [countRunning, ← List.countP_eq_length_filter, List.countP_eq_length]

/-- An update converges when all nodes run. If there are none it still does, once it is started. -/
theorem update_converged (s : Nodes) (view : View) :
    (s.update view).converged = true ↔
      (∀ x ∈ tasksByNode view.tasks view.active, x.2.isRunning = true) ∧
        (tasksByNode view.tasks view.active ≠ [] ∨ s.started = true) := by
  have hprogress : ∀ s : Nodes,
      (s.progress view.rollback (tasksByNode view.tasks view.active)).converged = true ↔
        ∀ x ∈ tasksByNode view.tasks view.active, x.2.isRunning = true := by
    intro s
    rw [progress_converged, beq_iff_eq, countRunning_eq_length]
  rcases update_cases s view with ⟨hs, hu, hx⟩ | ⟨-, hu, hx⟩ | ⟨hs, hx⟩
  · simp [hx, hs, hu]
  · rw [hx]
    exact (hprogress { s with started := true }).trans ⟨fun h => ⟨h, .inl hu⟩, fun h => h.1⟩
  · rw [hx]
    exact (hprogress _).trans ⟨fun h => ⟨h, .inr hs⟩, fun h => h.1⟩

theorem progress_held_started {e : Emission Nodes}
    (he : e ∈ (s.progress rollback units).emissions) : e.held.started = s.started := by
  unfold progress at he
  obtain ⟨event, -, rfl⟩ := List.mem_map.1 he
  rfl

theorem progress_attempt_started (s : Nodes) (rollback : Bool) (units : List (String × Task))
    (refused : Option Nat) :
    ((s.progress rollback units).attempt refused).state.started = s.started := by
  rcases (s.progress rollback units).attempt_cases refused with hx | ⟨n, e, -, he, hx⟩
  · rw [hx]
    rfl
  · rw [hx]
    exact progress_held_started (List.mem_of_getElem? he)

/-- The first tasks start an updater, unless the first event about them is refused. -/
theorem attempt_started (s : Nodes) (view : View) (refused : Option Nat) :
    ((s.update view).attempt refused).state.started =
      (s.started || !(tasksByNode view.tasks view.active).isEmpty && refused != some 0) := by
  rcases update_cases s view with ⟨hs, hu, hx⟩ | ⟨hs, hu, hx⟩ | ⟨hs, hx⟩
  · have hstate : ((s.update view).attempt refused).state = s := by
      rcases (s.update view).attempt_cases refused with hy | ⟨n, e, -, he, hy⟩
      · rw [hy, hx]
      · rw [hx] at he
        rw [hy, List.mem_singleton.1 (List.mem_of_getElem? he)]
    rw [hstate, hs, hu]
    rfl
  · have hrest := progress_attempt_started { s with started := true } view.rollback
      (tasksByNode view.tasks view.active)
    simp only [hx, hs, List.isEmpty_eq_false_iff.2 hu]
    cases refused with
    | none => exact hrest none
    | some n =>
      cases n with
      | zero => exact hs
      | succ n =>
        refine Eq.trans ?_ (hrest (some n))
        simp only [Plan.attempt, Option.bind_some, List.getElem?_cons_succ]
        cases (progress { s with started := true } view.rollback
          (tasksByNode view.tasks view.active)).emissions[n]? <;> rfl
  · rw [hx, progress_attempt_started, hs]
    rfl

theorem update_final_started (s : Nodes) (view : View) :
    (s.update view).final.started = true ↔
      s.started = true ∨ tasksByNode view.tasks view.active ≠ [] := by
  have hnone := attempt_started s view none
  rw [show ((s.update view).attempt none).state = (s.update view).final from rfl] at hnone
  simp [hnone]

end Rollout.Update.Nodes
