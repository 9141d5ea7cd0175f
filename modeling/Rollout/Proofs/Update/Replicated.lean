import Rollout.Proofs.Update.Attempt

/-!
What one update of a replicated service does to its latch. While the latch holds and all slots
were seen running, an update shows nothing; any other update closes with the overall line, which
sets the latch if all replicas run, and holds a state without the latch at each of its events.
-/

namespace Rollout.Update.Slots

variable {s : Slots} {replicas : Nat} {rollback : Bool} {units : List (Nat × Task)} {view : View}

@[simp] theorem record_settled (s : Slots) (slot : Nat) : (s.record slot).settled = s.settled := by
  unfold record
  split <;> rfl

@[simp] theorem record_started (s : Slots) (slot : Nat) : (s.record slot).started = s.started := by
  unfold record
  split <;> rfl

@[simp] theorem wake_started (s : Slots) (units : List (Nat × Task)) :
    (s.wake units).started = s.started := rfl

theorem start_started (s : Slots) (replicas : Nat) (rollback : Bool) :
    (s.start replicas rollback).2.started = true := by
  unfold start
  split
  · assumption
  · rfl

theorem start_settled (s : Slots) (replicas : Nat) (rollback : Bool) :
    (s.start replicas rollback).2.settled = s.settled := by
  unfold start
  split <;> rfl

theorem start_held {e : Emission Slots} (he : e ∈ (s.start replicas rollback).1) :
    e.held.settled = s.settled ∧ s.started = false := by
  unfold start at he
  split at he
  · cases he
  · rename_i hs
    obtain ⟨event, -, rfl⟩ := List.mem_map.1 he
    exact ⟨rfl, by simpa using hs⟩

theorem walk_started (s : Slots) (units : List (Nat × Task)) :
    (walk replicas rollback s units).2.started = s.started := by
  induction units generalizing s with
  | nil => rfl
  | cons u units ih => exact (ih _).trans (record_started ..)

theorem walk_settled (s : Slots) (units : List (Nat × Task)) :
    (walk replicas rollback s units).2.settled = s.settled := by
  induction units generalizing s with
  | nil => rfl
  | cons u units ih => exact (ih _).trans (record_settled ..)

theorem walk_held {e : Emission Slots} (he : e ∈ (walk replicas rollback s units).1) :
    e.held.settled = s.settled := by
  induction units generalizing s with
  | nil => cases he
  | cons u units ih =>
    rw [walk, List.mem_append] at he
    rcases he with he | he
    · obtain ⟨event, -, rfl⟩ := List.mem_map.1 he
      exact record_settled ..
    · exact (ih he).trans (record_settled ..)

/-- A settled service shows no line of a slot. -/
theorem walk_quiet (hs : s.settled = true) (units : List (Nat × Task)) :
    (walk replicas rollback s units).1 = [] := by
  induction units generalizing s with
  | nil => rfl
  | cons u units ih =>
    have hr : (s.record u.1).settled = true := by rw [record_settled, hs]
    simp only [walk, ih hr, unitEvents, hr, Bool.true_or, if_true, List.map_nil, List.append_nil]

theorem close_final (s : Slots) (running replicas : Nat) (rollback : Bool) :
    (s.close running replicas rollback).2 =
      { s with settled := s.settled || running == replicas } := by
  unfold close
  split
  case isTrue h =>
    have hsame : (s.settled || running == replicas) = s.settled := by rw [h, Bool.true_or]
    rw [hsame]
  case isFalse h => simp [h]

/-- The state with which the slots are shown. -/
def awake (s : Slots) (replicas : Nat) (view : View) : Slots :=
  (s.start replicas view.rollback).2.wake (tasksBySlot view.tasks view.active)

/-- The lines of the slots, and the state after them. -/
def walked (s : Slots) (replicas : Nat) (view : View) : List (Emission Slots) × Slots :=
  walk replicas view.rollback (s.awake replicas view) (tasksBySlot view.tasks view.active)

theorem awake_settled (s : Slots) (replicas : Nat) (view : View) :
    (s.awake replicas view).settled =
      (s.settled && !hasRegressed (tasksBySlot view.tasks view.active)) := by
  rw [awake, wake, start_settled]

theorem walked_settled (s : Slots) (replicas : Nat) (view : View) :
    (s.walked replicas view).2.settled = (s.awake replicas view).settled := by
  rw [walked, walk_settled]

/-- An update shows the start-up lines, those of the slots, and the overall line. -/
theorem update_eq (s : Slots) (replicas : Nat) (view : View) :
    s.update replicas view =
      let units := tasksBySlot view.tasks view.active
      let last := (s.walked replicas view).2.close (countRunning units) replicas view.rollback
      ⟨(s.start replicas view.rollback).1 ++ (s.walked replicas view).1 ++ last.1, last.2,
        countRunning units == replicas,
        some (.slots (countRunning units) replicas units.length)⟩ := rfl

theorem update_started (s : Slots) (replicas : Nat) (view : View) :
    (s.update replicas view).final.started = true := by
  have hw : (s.walked replicas view).2.started = true := by
    rw [walked, walk_started, awake, wake_started, start_started]
  rw [update_eq]
  simp only [close]
  split <;> exact hw

/-- While the latch holds, an update shows nothing. -/
theorem update_quiet (hs : s.started = true) (hq : (s.awake replicas view).settled = true) :
    (s.update replicas view).emissions = [] ∧ (s.update replicas view).final.settled = true := by
  have hw : (s.walked replicas view).1 = [] := walk_quiet hq _
  have hl : (s.walked replicas view).2.settled = true := (walked_settled ..).trans hq
  rw [update_eq]
  simp [close, hl, hw, start, hs]

/-- While it does not, an update closes with the overall line. -/
theorem update_loud (hq : (s.awake replicas view).settled = false) :
    let running := countRunning (tasksBySlot view.tasks view.active)
    (∃ es, (s.update replicas view).events = es ++ [overall running replicas view.rollback]) ∧
      (s.update replicas view).final.settled = (running == replicas) := by
  have hl : (s.walked replicas view).2.settled = false := (walked_settled ..).trans hq
  intro running
  rw [update_eq]
  simp only [close, hl, Bool.false_eq_true, if_false, Plan.events, List.map_append]
  exact ⟨⟨_, rfl⟩, rfl⟩

/-- No event is shown while the latch holds. -/
theorem update_held (hs : s.settled = true → s.started = true) {e : Emission Slots}
    (he : e ∈ (s.update replicas view).emissions) : e.held.settled = false := by
  rw [update_eq] at he
  simp only [List.mem_append] at he
  rw [Bool.eq_false_iff]
  intro hset
  rcases he with (he | he) | he
  · obtain ⟨hheld, hst⟩ := start_held he
    rw [hs (hheld ▸ hset)] at hst
    cases hst
  · rw [walked, walk_quiet ((walk_held he) ▸ hset)] at he
    cases he
  · unfold close at he
    split at he
    · cases he
    · rename_i hl
      rw [List.mem_singleton.1 he] at hset
      exact hl hset

end Rollout.Update.Slots
