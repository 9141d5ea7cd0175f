import Mathlib.Data.List.Induction
import Mathlib.Data.Prod.Lex
import Mathlib.Data.String.Basic
import Mathlib.Order.Compare
import Mathlib.Tactic.IntervalCases
import Rollout.Reduction

/-!
Which task stands for a unit. Tasks of one unit are compared by their desired and observed ranks,
in this order, and the first of the least ones is kept; the keys of the units ascend. Tasks that
do not count for any unit change nothing (`reduction`).
-/

namespace Rollout

/-! ## The first of the least tasks -/

/-- The rank of a state is its place in the lifecycle, counted from one. Others have none. -/
theorem TaskState.rank?_eq_some {s : TaskState} {r : Nat} :
    s.rank? = some r ↔ ∃ i : Nat, r = i + 1 ∧ lifecycle[i]? = some s := by
  constructor
  · intro h
    cases s <;> cases h <;> exact ⟨_, rfl, rfl⟩
  · rintro ⟨i, rfl, hi⟩
    have hlt : i < 13 := (List.getElem?_eq_some_iff.1 hi).1
    interval_cases i <;> cases hi <;> rfl

/-- Of two recognized states the one with the lower rank comes first in the lifecycle. -/
theorem TaskState.rank_lt_iff {s s' : TaskState} (hs : s.isRecognized = true)
    (hs' : s'.isRecognized = true) :
    s.rank < s'.rank ↔ ∃ i j : Nat, i < j ∧ lifecycle[i]? = some s ∧ lifecycle[j]? = some s' := by
  obtain ⟨r, hr⟩ := Option.isSome_iff_exists.1 hs
  obtain ⟨r', hr'⟩ := Option.isSome_iff_exists.1 hs'
  have hrank : s.rank = r := by rw [rank, hr, Option.getD_some]
  have hrank' : s'.rank = r' := by rw [rank, hr', Option.getD_some]
  rw [hrank, hrank']
  constructor
  · intro hlt
    obtain ⟨i, rfl, hi⟩ := rank?_eq_some.1 hr
    obtain ⟨j, rfl, hj⟩ := rank?_eq_some.1 hr'
    exact ⟨i, j, by omega, hi, hj⟩
  · rintro ⟨i, j, hlt, hi, hj⟩
    obtain rfl : r = i + 1 := Option.some.inj (hr.symm.trans (rank?_eq_some.2 ⟨i, rfl, hi⟩))
    obtain rfl : r' = j + 1 := Option.some.inj (hr'.symm.trans (rank?_eq_some.2 ⟨j, rfl, hj⟩))
    omega

/-- What tasks of one unit are compared by: the desired rank, then the observed one. -/
def Task.ranks (t : Task) : ℕ ×ₗ ℕ := toLex (t.desired.rank, t.observed.rank)

/-- The earliest of the tasks in `P` that none of them goes below. -/
def FirstLeast (P : Task → Prop) (tasks : List Task) (t : Task) : Prop :=
  ∃ before after, tasks = before ++ t :: after ∧ P t ∧
    (∀ x ∈ before, P x → t.ranks < x.ranks) ∧ ∀ x ∈ after, P x → t.ranks ≤ x.ranks

theorem supersedes_iff {existing challenger : Task} :
    supersedes existing challenger = true ↔ challenger.ranks < existing.ranks := by
  simp [supersedes, Task.ranks, Prod.Lex.toLex_lt_toLex]

section

variable {P : Task → Prop} {tasks : List Task} {e t : Task}

theorem FirstLeast.mem (h : FirstLeast P tasks e) : e ∈ tasks := by
  obtain ⟨before, after, rfl, -⟩ := h
  simp

theorem FirstLeast.holds (h : FirstLeast P tasks e) : P e := by
  obtain ⟨-, -, -, he, -⟩ := h
  exact he

theorem FirstLeast.le (h : FirstLeast P tasks e) {x : Task} (hx : x ∈ tasks) (hP : P x) :
    e.ranks ≤ x.ranks := by
  obtain ⟨before, after, rfl, -, hbefore, hafter⟩ := h
  rcases List.mem_append.1 hx with hx | hx
  · exact le_of_lt (hbefore x hx hP)
  · rcases List.mem_cons.1 hx with rfl | hx
    · exact le_refl _
    · exact hafter x hx hP

/-- Of two first ones neither stands before the other. -/
theorem FirstLeast.unique (h : FirstLeast P tasks e) (h' : FirstLeast P tasks t) : e = t := by
  have hle := h.le h'.mem h'.holds
  have hge := h'.le h.mem h.holds
  obtain ⟨before, after, rfl, he, hbefore, -⟩ := h
  obtain ⟨before', after', hsplit, ht, hbefore', -⟩ := h'
  rcases List.append_eq_append_iff.1 hsplit with ⟨gap, rfl, hrest⟩ | ⟨gap, rfl, hrest⟩
  · cases gap with
    | nil => exact (List.cons.inj hrest).1
    | cons x gap =>
      obtain rfl : e = x := (List.cons.inj hrest).1
      exact absurd (hbefore' e (by simp) he) (not_lt.2 hle)
  · cases gap with
    | nil => exact (List.cons.inj hrest).1.symm
    | cons x gap =>
      obtain rfl : t = x := (List.cons.inj hrest).1
      exact absurd (hbefore t (by simp) ht) (not_lt.2 hge)

theorem FirstLeast.skip (h : FirstLeast P tasks e) (ht : ¬ P t) :
    FirstLeast P (tasks ++ [t]) e := by
  obtain ⟨before, after, rfl, he, hbefore, hafter⟩ := h
  refine ⟨before, after ++ [t], by simp, he, hbefore, fun x hx hP => ?_⟩
  rcases List.mem_append.1 hx with hx | hx
  · exact hafter x hx hP
  · obtain rfl := List.mem_singleton.1 hx
    exact absurd hP ht

/-- One more task takes over if it goes below the first least one. -/
theorem FirstLeast.meet (h : FirstLeast P tasks e) (ht : P t) :
    FirstLeast P (tasks ++ [t]) (if supersedes e t then t else e) := by
  split
  case isTrue hless =>
    rw [supersedes_iff] at hless
    refine ⟨tasks, [], rfl, ht, fun x hx hP => ?_, by simp⟩
    exact lt_of_lt_of_le hless (h.le hx hP)
  case isFalse hless =>
    rw [supersedes_iff, not_lt] at hless
    obtain ⟨before, after, rfl, he, hbefore, hafter⟩ := h
    refine ⟨before, after ++ [t], by simp, he, hbefore, fun x hx hP => ?_⟩
    rcases List.mem_append.1 hx with hx | hx
    · exact hafter x hx hP
    · obtain rfl := List.mem_singleton.1 hx
      exact hless

theorem firstLeast_new (hnone : ∀ x ∈ tasks, ¬ P x) (ht : P t) : FirstLeast P (tasks ++ [t]) t :=
  ⟨tasks, [], rfl, ht, fun x hx hP => absurd hP (hnone x hx), by simp⟩

end

/-! ## Units in ascending order -/

/-- The units of some tasks: each key for which a task counts, in ascending order, with the first
least of the tasks that count for it. -/
structure Reduces [LT κ] (counts : κ → Task → Prop) (tasks : List Task)
    (units : List (κ × Task)) : Prop where
  ascending : (units.map Prod.fst).Pairwise (· < ·)
  keys : ∀ key, key ∈ units.map Prod.fst ↔ ∃ t ∈ tasks, counts key t
  kept : ∀ key t, (key, t) ∈ units ↔ FirstLeast (counts key) tasks t

theorem Reduces.congr [LT κ] {counts counts' : κ → Task → Prop} {tasks : List Task}
    {units : List (κ × Task)} (h : Reduces counts tasks units)
    (hcounts : ∀ key t, counts key t ↔ counts' key t) : Reduces counts' tasks units := by
  obtain rfl : counts = counts' := funext₂ fun key t => propext (hcounts key t)
  exact h

/-- Does a task count for the unit with a key? -/
def Counts (key? : Task → Option κ) (key : κ) (t : Task) : Prop :=
  t.isRecognized = true ∧ key? t = some key

theorem Counts.key_eq {key? : Task → Option κ} {key key' : κ} {t : Task} (h : Counts key? key t)
    (h' : Counts key? key' t) : key = key' :=
  Option.some.inj (h.2.symm.trans h'.2)

section

variable {κ : Type} [LinearOrder κ]

/-- A task is put in between the units with smaller and with greater keys. If there is a unit with
its key, the two tasks are compared. -/
theorem enroll_cases (key : κ) (t : Task) {units : List (κ × Task)}
    (h : (units.map Prod.fst).Pairwise (· < ·)) :
    ∃ low high, (∀ u ∈ low, u.1 < key) ∧ (∀ u ∈ high, key < u.1) ∧
      ((units = low ++ high ∧ enroll key t units = low ++ (key, t) :: high) ∨
        ∃ e, units = low ++ (key, e) :: high ∧
          enroll key t units = low ++ (key, if supersedes e t then t else e) :: high) := by
  induction units with
  | nil => exact ⟨[], [], by simp, by simp, .inl ⟨rfl, rfl⟩⟩
  | cons u units ih =>
    obtain ⟨k, e⟩ := u
    rw [List.map_cons, List.pairwise_cons] at h
    have habove : ∀ u ∈ units, k < u.1 := fun u hu => h.1 u.1 (List.mem_map_of_mem hu)
    cases hcompare : compare key k with
    | lt =>
      have hlt : key < k := compare_lt_iff_lt.1 hcompare
      refine ⟨[], (k, e) :: units, by simp, fun u hu => ?_, .inl ⟨rfl, by simp [enroll, hcompare]⟩⟩
      rcases List.mem_cons.1 hu with rfl | hu
      · exact hlt
      · exact lt_trans hlt (habove u hu)
    | eq =>
      obtain rfl : key = k := compare_eq_iff_eq.1 hcompare
      exact ⟨[], units, by simp, habove, .inr ⟨e, rfl, by simp [enroll]⟩⟩
    | gt =>
      have hgt : k < key := compare_gt_iff_gt.1 hcompare
      obtain ⟨low, high, hlow, hhigh, hsplit⟩ := ih h.2
      have hlow' : ∀ u ∈ (k, e) :: low, u.1 < key := by
        intro u hu
        rcases List.mem_cons.1 hu with rfl | hu
        · exact hgt
        · exact hlow u hu
      refine ⟨(k, e) :: low, high, hlow', hhigh, ?_⟩
      rcases hsplit with ⟨hunits, henroll⟩ | ⟨e', hunits, henroll⟩
      · exact .inl ⟨by rw [hunits]; rfl, by simp [enroll, hcompare, henroll]⟩
      · exact .inr ⟨e', by rw [hunits]; rfl, by simp [enroll, hcompare, henroll]⟩

section

variable {key? : Task → Option κ} {tasks : List Task} {t : Task}

theorem canonical_skip (h : ∀ key, ¬ Counts key? key t) :
    canonical key? (tasks ++ [t]) = canonical key? tasks := by
  simp only [canonical, List.foldl_append, List.foldl_cons, List.foldl_nil]
  split
  case isTrue hrecognized =>
    cases hkey : key? t with
    | none => rfl
    | some key => exact absurd ⟨hrecognized, hkey⟩ (h key)
  case isFalse => rfl

theorem canonical_take {key : κ} (h : Counts key? key t) :
    canonical key? (tasks ++ [t]) = enroll key t (canonical key? tasks) := by
  simp only [canonical, List.foldl_append, List.foldl_cons, List.foldl_nil, h.1, h.2, if_true]

/-- What holds of the units while the tasks are gone through. -/
structure Enrolled (key? : Task → Option κ) (tasks : List Task) (units : List (κ × Task)) :
    Prop where
  ascending : (units.map Prod.fst).Pairwise (· < ·)
  found : ∀ key, (∃ t ∈ tasks, Counts key? key t) → key ∈ units.map Prod.fst
  first : ∀ u ∈ units, FirstLeast (Counts key? u.1) tasks u.2

theorem Enrolled.skip {units : List (κ × Task)} (h : Enrolled key? tasks units)
    (ht : ∀ key, ¬ Counts key? key t) : Enrolled key? (tasks ++ [t]) units where
  ascending := h.ascending
  found := by
    rintro key ⟨x, hx, hcounts⟩
    rcases List.mem_append.1 hx with hx | hx
    · exact h.found key ⟨x, hx, hcounts⟩
    · obtain rfl := List.mem_singleton.1 hx
      exact absurd hcounts (ht key)
  first u hu := (h.first u hu).skip (ht u.1)

/-- A task of a unit takes its place between the smaller and the greater keys. -/
private theorem Enrolled.place {units low high : List (κ × Task)} {key : κ} {x : Task}
    (h : Enrolled key? tasks units) (ht : Counts key? key t)
    (hlow : ∀ u ∈ low, u.1 < key) (hhigh : ∀ u ∈ high, key < u.1)
    (hsub : (low ++ high).Sublist units) (hrest : ∀ u ∈ units, u.1 ≠ key → u ∈ low ++ high)
    (hx : FirstLeast (Counts key? key) (tasks ++ [t]) x) :
    Enrolled key? (tasks ++ [t]) (low ++ (key, x) :: high) := by
  have hother : ∀ u ∈ low ++ high, u.1 ≠ key →
      FirstLeast (Counts key? u.1) (tasks ++ [t]) u.2 := fun u hu hne =>
    (h.first u (hsub.subset hu)).skip fun hcounts => hne (hcounts.key_eq ht)
  refine ⟨?_, ?_, ?_⟩
  · have hsorted := h.ascending.sublist (hsub.map Prod.fst)
    rw [List.map_append, List.pairwise_append] at hsorted ⊢
    obtain ⟨hleft, hright, -⟩ := hsorted
    have hbelow : ∀ k ∈ low.map Prod.fst, k < key := List.forall_mem_map.2 hlow
    have habove : ∀ k ∈ high.map Prod.fst, key < k := List.forall_mem_map.2 hhigh
    refine ⟨hleft, List.pairwise_cons.2 ⟨habove, hright⟩, fun a ha b hb => ?_⟩
    rcases List.mem_cons.1 hb with rfl | hb
    · exact hbelow a ha
    · exact lt_trans (hbelow a ha) (habove b hb)
  · rintro k ⟨y, hy, hcounts⟩
    by_cases hk : k = key
    · simp [hk]
    · have hy : y ∈ tasks := by
        rcases List.mem_append.1 hy with hy | hy
        · exact hy
        · obtain rfl := List.mem_singleton.1 hy
          exact absurd (hcounts.key_eq ht) hk
      obtain ⟨u, hu, rfl⟩ := List.mem_map.1 (h.found k ⟨y, hy, hcounts⟩)
      refine List.mem_map_of_mem ?_
      rcases List.mem_append.1 (hrest u hu hk) with hu | hu
      · exact List.mem_append_left _ hu
      · exact List.mem_append_right _ (List.mem_cons_of_mem _ hu)
  · intro u hu
    rcases List.mem_append.1 hu with hu | hu
    · exact hother u (List.mem_append_left _ hu) (ne_of_lt (hlow u hu))
    · rcases List.mem_cons.1 hu with rfl | hu
      · exact hx
      · exact hother u (List.mem_append_right _ hu) (ne_of_gt (hhigh u hu))

theorem Enrolled.take {units : List (κ × Task)} (h : Enrolled key? tasks units) {key : κ}
    (ht : Counts key? key t) : Enrolled key? (tasks ++ [t]) (enroll key t units) := by
  obtain ⟨low, high, hlow, hhigh, ⟨rfl, henroll⟩ | ⟨e, rfl, henroll⟩⟩ :=
    enroll_cases key t h.ascending
  · have hnone : ∀ x ∈ tasks, ¬ Counts key? key x := by
      intro x hx hcounts
      obtain ⟨u, hu, hkey⟩ := List.mem_map.1 (h.found key ⟨x, hx, hcounts⟩)
      rcases List.mem_append.1 hu with hu | hu
      · exact ne_of_lt (hlow u hu) hkey
      · exact ne_of_gt (hhigh u hu) hkey
    rw [henroll]
    exact h.place ht hlow hhigh (.refl _) (fun u hu _ => hu) (firstLeast_new hnone ht)
  · have hfirst := h.first (key, e) (by simp)
    rw [henroll]
    refine h.place ht hlow hhigh (by simp) (fun u hu hne => ?_) (hfirst.meet ht)
    rcases List.mem_append.1 hu with hu | hu
    · exact List.mem_append_left _ hu
    · rcases List.mem_cons.1 hu with rfl | hu
      · exact absurd rfl hne
      · exact List.mem_append_right _ hu

theorem enrolled_canonical (key? : Task → Option κ) (tasks : List Task) :
    Enrolled key? tasks (canonical key? tasks) := by
  induction tasks using List.reverseRecOn with
  | nil => exact ⟨.nil, by simp, by simp [canonical]⟩
  | append_singleton tasks t ih =>
    by_cases ht : ∃ key, Counts key? key t
    · obtain ⟨key, ht⟩ := ht
      rw [canonical_take ht]
      exact ih.take ht
    · rw [not_exists] at ht
      rw [canonical_skip ht]
      exact ih.skip ht

theorem canonical_reduces (key? : Task → Option κ) (tasks : List Task) :
    Reduces (Counts key?) tasks (canonical key? tasks) := by
  obtain ⟨hascending, hfound, hfirst⟩ := enrolled_canonical key? tasks
  refine ⟨hascending, fun key => ⟨fun hkey => ?_, hfound key⟩, fun key t => ⟨hfirst (key, t), ?_⟩⟩
  · obtain ⟨u, hu, rfl⟩ := List.mem_map.1 hkey
    exact ⟨u.2, (hfirst u hu).mem, (hfirst u hu).holds⟩
  · intro ht
    obtain ⟨u, hu, rfl⟩ := List.mem_map.1 (hfound key ⟨t, ht.mem, ht.holds⟩)
    rw [← (hfirst u hu).unique ht]
    exact hu

/-- The task of a unit counts for it. -/
theorem counts_of_unit {u : κ × Task} (hu : u ∈ canonical key? tasks) : Counts key? u.1 u.2 :=
  (((canonical_reduces key? tasks).kept u.1 u.2).1 hu).holds

/-- Only tasks that count for some unit matter. -/
theorem canonical_filter {counts : Task → Bool}
    (hcounts : ∀ t, counts t = true ↔ ∃ key, Counts key? key t) (tasks : List Task) :
    canonical key? (tasks.filter counts) = canonical key? tasks := by
  induction tasks using List.reverseRecOn with
  | nil => rfl
  | append_singleton tasks t ih =>
    rw [List.filter_append]
    by_cases ht : ∃ key, Counts key? key t
    · rw [List.filter_cons_of_pos ((hcounts t).2 ht)]
      obtain ⟨key, ht⟩ := ht
      rw [List.filter_nil, canonical_take ht, canonical_take ht, ih]
    · rw [List.filter_cons_of_neg (mt (hcounts t).1 ht), List.filter_nil, List.append_nil, ih,
        canonical_skip (not_exists.1 ht)]

end
end

/-! ## Slots and nodes -/

/-- A task counts for its slot if both states are recognized and it is not assigned yet or on an
active node. -/
def Task.countsForSlot (active : List String) (t : Task) : Bool :=
  t.isRecognized && (t.nodeId == "" || active.contains t.nodeId)

/-- For a node the task has to be on it, and it has to be active. -/
def Task.countsForNode (active : List String) (t : Task) : Bool :=
  t.isRecognized && active.contains t.nodeId

theorem counts_slotOf? {active : List String} {slot : Nat} {t : Task} :
    Counts (slotOf? active) slot t ↔ t.countsForSlot active = true ∧ t.slot = slot := by
  simp only [Counts, slotOf?, Task.countsForSlot, Option.ite_none_right_eq_some, Option.some.injEq,
    Bool.and_eq_true, Bool.or_eq_true, beq_iff_eq, List.contains_iff_mem, and_assoc]

theorem counts_nodeOf? {active : List String} {node : String} {t : Task} :
    Counts (nodeOf? active) node t ↔ t.countsForNode active = true ∧ t.nodeId = node := by
  simp only [Counts, nodeOf?, Task.countsForNode, Option.ite_none_right_eq_some, Option.some.injEq,
    Bool.and_eq_true, List.contains_iff_mem, and_assoc]

theorem tasksBySlot_reduces (tasks : List Task) (active : List String) :
    Reduces (fun slot t => t.countsForSlot active = true ∧ t.slot = slot) tasks
      (tasksBySlot tasks active) :=
  (canonical_reduces (slotOf? active) tasks).congr fun _ _ => counts_slotOf?

theorem tasksByNode_reduces (tasks : List Task) (active : List String) :
    Reduces (fun node t => t.countsForNode active = true ∧ t.nodeId = node) tasks
      (tasksByNode tasks active) :=
  (canonical_reduces (nodeOf? active) tasks).congr fun _ _ => counts_nodeOf?

/-- The units are the slots, or the nodes, of the tasks that count, in ascending order, each with
the first of its least advanced tasks. The tasks that do not count might as well not be there. -/
theorem reduction (tasks : List Task) (active : List String) :
    (Reduces (fun slot t => t.countsForSlot active = true ∧ t.slot = slot) tasks
        (tasksBySlot tasks active) ∧
      tasksBySlot (tasks.filter (Task.countsForSlot active)) active = tasksBySlot tasks active) ∧
    (Reduces (fun node t => t.countsForNode active = true ∧ t.nodeId = node) tasks
        (tasksByNode tasks active) ∧
      tasksByNode (tasks.filter (Task.countsForNode active)) active =
        tasksByNode tasks active) := by
  refine ⟨⟨tasksBySlot_reduces tasks active, canonical_filter (fun t => ?_) tasks⟩,
    ⟨tasksByNode_reduces tasks active, canonical_filter (fun t => ?_) tasks⟩⟩
  · simp only [counts_slotOf?, exists_and_left, exists_eq', and_true]
  · simp only [counts_nodeOf?, exists_and_left, exists_eq', and_true]

/-- On a full tie the first task stays. One on a node that is gone is not even compared. -/
example :
    let task (id node : String) (observed : TaskState) : Task :=
      ⟨id, "web", node, 1, .running, ⟨observed, "", ""⟩⟩
    let gone := task "gone" "c" .new
    let ahead := task "ahead" "a" .running
    let first := task "first" "a" .starting
    let second := task "second" "b" .starting
    tasksBySlot [gone, ahead, first, second] ["a", "b"] = [(1, first)] := by
  decide

end Rollout
