import Rollout.Proofs.Update.Attempt

/-!
The lines that an update shows. Each is the overall line, the line of a slot under its ordinal, or
the line of a node under its short id (`Updater.update?_isLine`).
-/

namespace Rollout

namespace Update

theorem unitLine_id {id : String} {task : Task} {rollback : Bool} {e : Event}
    (he : e ∈ unitLine id task rollback) : e.id = id := by
  unfold unitLine at he
  repeat' split at he
  · rw [List.mem_singleton.1 he]
    rfl
  · cases he
  · rw [List.mem_singleton.1 he]
    rfl

namespace Slots

/-- An event under the id of the overall line or of a slot. -/
def IsLine (replicas : Nat) (e : Event) : Prop := e.id = overallId ∨ ∃ n, e.id = unitId n replicas

variable {replicas : Nat} {rollback : Bool} {e : Event}

/-- The id of a slot has a slash in it. -/
theorem unitId_slash (n replicas : Nat) : '/' ∈ (unitId n replicas).toList := by
  have hslash : "/".toList = ['/'] := rfl
  simp [unitId, String.toList_append, hslash]

theorem startLines_isLine (he : e ∈ startLines replicas rollback) : IsLine replicas e := by
  unfold startLines at he
  rcases List.mem_cons.1 he with rfl | he
  · exact .inl rfl
  · split at he
    · obtain ⟨i, -, rfl⟩ := List.mem_map.1 he
      exact .inr ⟨i + 1, rfl⟩
    · cases he

theorem start_isLine {s : Slots} {x : Emission Slots} (hx : x ∈ (s.start replicas rollback).1) :
    IsLine replicas x.event := by
  unfold start at hx
  split at hx
  · cases hx
  · obtain ⟨e, he, rfl⟩ := List.mem_map.1 hx
    exact startLines_isLine he

theorem walk_isLine {s : Slots} {units : List (Nat × Task)} {x : Emission Slots}
    (hx : x ∈ (walk replicas rollback s units).1) : IsLine replicas x.event := by
  induction units generalizing s with
  | nil => cases hx
  | cons u units ih =>
    rw [walk, List.mem_append] at hx
    rcases hx with hx | hx
    · obtain ⟨e, he, rfl⟩ := List.mem_map.1 hx
      unfold unitEvents at he
      split at he
      · cases he
      · exact .inr ⟨_, unitLine_id he⟩
    · exact ih hx

theorem close_isLine {s : Slots} {running : Nat} {x : Emission Slots}
    (hx : x ∈ (s.close running replicas rollback).1) : IsLine replicas x.event := by
  unfold close at hx
  split at hx
  · cases hx
  · rw [List.mem_singleton.1 hx]
    exact .inl rfl

theorem update_isLine {s : Slots} {view : View} (he : e ∈ (s.update replicas view).events) :
    IsLine replicas e := by
  obtain ⟨x, hx, rfl⟩ := List.mem_map.1 he
  simp only [update, List.mem_append] at hx
  rcases hx with (hx | hx) | hx
  · exact start_isLine hx
  · exact walk_isLine hx
  · exact close_isLine hx

end Slots

namespace Nodes

/-- The overall line, or the line of a node. -/
def IsLine (units : List (String × Task)) (rollback : Bool) (e : Event) : Prop :=
  e.id = overallId ∨ ∃ u ∈ units, e ∈ unitLine (shortId u.1) u.2 rollback

theorem progress_isLine {s : Nodes} {rollback : Bool} {units : List (String × Task)} {e : Event}
    (he : e ∈ (s.progress rollback units).events) : IsLine units rollback e := by
  simp only [progress, Plan.events, List.map_map, List.mem_map] at he
  obtain ⟨e, he, rfl⟩ := he
  rcases List.mem_append.1 he with he | he
  · obtain ⟨u, hu, hline⟩ := List.mem_flatMap.1 he
    unfold unitEvents at hline
    split at hline
    · cases hline
    · exact .inr ⟨u, hu, hline⟩
  · split at he
    · cases he
    · rw [List.mem_singleton.1 he]
      exact .inl rfl

theorem update_isLine {s : Nodes} {view : View} {e : Event} (he : e ∈ (s.update view).events) :
    IsLine (tasksByNode view.tasks view.active) view.rollback e := by
  unfold update at he
  dsimp only at he
  split at he
  · exact progress_isLine he
  · split at he
    · rw [List.mem_singleton.1 he]
      exact .inl rfl
    · rcases List.mem_cons.1 he with rfl | he
      · exact .inl rfl
      · exact progress_isLine he

end Nodes
end Update

theorem Updater.update?_isLine {u : Updater} {service : Service} {view : View} {p : Plan Updater}
    (hp : u.update? service view = some p) {e : Event} (he : e ∈ p.events) :
    (∃ replicas, Update.Slots.IsLine replicas e) ∨
      (∃ nodes, u = .global nodes) ∧
        Update.Nodes.IsLine (tasksByNode view.tasks view.active) view.rollback e := by
  cases u with
  | replicated slots =>
    obtain ⟨n, -, rfl⟩ := Option.map_eq_some_iff.1 hp
    rw [Plan.events_map] at he
    exact .inl ⟨n, Update.Slots.update_isLine he⟩
  | global nodes =>
    cases hp
    rw [Plan.events_map] at he
    exact .inr ⟨⟨nodes, rfl⟩, Update.Nodes.update_isLine he⟩

end Rollout
