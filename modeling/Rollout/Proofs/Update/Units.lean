import Mathlib.Data.List.Nodup
import Rollout.Proofs.Update.Lines
import Rollout.Proofs.Update.Overall
import Rollout.Proofs.Update.Retry

/-!
The lines of the units. Only tasks on their way, or running, get a bar, which stays within its
bounds, and its label fills the column; there are no bars of a settled service, nor of one with too
many units. No two lines of an update are for the same replica, and the lines of the replicas appear
in order (`unit_events`).
-/

namespace Rollout

/-! ## Bars -/

/-- Is a task in recognized states, neither of them behind `running`? -/
def Task.isLive (t : Task) : Bool :=
  t.isRecognized && !t.desired.isTerminal && !t.observed.isTerminal

/-- A bar of nine steps without numbers. It is never empty, or in a rollback never full. -/
structure Bar.FitsUnit (b : Bar) (rollback : Bool) : Prop where
  total : b.total = 9
  hidden : b.hideCounts = true
  forward : rollback = false → 1 ≤ b.current ∧ b.current ≤ 9
  backward : rollback = true → 0 ≤ b.current ∧ b.current ≤ 8

theorem TaskState.rank_of_live {s : TaskState} (hs : s.isRecognized = true)
    (hlive : s.isTerminal = false) : 1 ≤ s.rank ∧ s.rank ≤ 9 := by
  cases s with
  | unrecognized label => cases hs
  | _ => revert hlive; decide

theorem TaskState.padded_length {s : TaskState} (hs : s.isRecognized = true)
    (hlive : s.isTerminal = false) : (padded s.label).length = 9 := by
  cases s with
  | unrecognized label => cases hs
  | _ => revert hlive; decide +kernel

namespace Update

variable {id : String} {t : Task} {rollback : Bool} {e : Event}

theorem unitLine_length (id : String) (t : Task) (rollback : Bool) :
    (unitLine id t rollback).length ≤ 1 := by
  unfold unitLine
  repeat' split
  all_goals simp

/-- A line with a bar is that of a task on its way. -/
theorem unitLine_bar (he : e ∈ unitLine id t rollback) (ht : t.isRecognized = true) {b : Bar}
    (hb : e.bar = some b) : t.isLive = true ∧ b.FitsUnit rollback ∧ e.action.length = 9 := by
  unfold unitLine at he
  split at he
  case isTrue => rw [List.mem_singleton.1 he] at hb; cases hb
  case isFalse =>
    split at he
    case isTrue => cases he
    case isFalse hstates =>
      simp only [Bool.or_eq_true, not_or, Bool.not_eq_true] at hstates
      obtain ⟨hdesired, hobserved⟩ := hstates
      have hrecognized := (Bool.and_eq_true_iff.1 ht).2
      obtain ⟨hlow, hhigh⟩ := TaskState.rank_of_live hrecognized hobserved
      rw [List.mem_singleton.1 he] at hb ⊢
      obtain rfl := Option.some.inj hb
      refine ⟨by simp [Task.isLive, ht, hdesired, hobserved], ⟨rfl, rfl, ?_, ?_⟩,
        TaskState.padded_length hrecognized hobserved⟩
      · rintro rfl
        simp only [TaskState.progress, Bool.false_eq_true, if_false]
        omega
      · rintro rfl
        simp only [TaskState.progress, if_true, TaskState.runningRank]
        omega

/-! ## The lines of slots -/

namespace Slots

variable {s : Slots} {n : Nat} {view : View} {slot : Nat}

theorem unitId_inj {k k' : Nat} (h : unitId k n = unitId k' n) : k = k' := by
  have htext : toString k = toString k' :=
    (String.append_left_inj _).1 ((String.append_left_inj _).1 h)
  have hdigits : Nat.toDigits 10 k = Nat.toDigits 10 k' := by
    rw [← Nat.toList_repr, ← Nat.toList_repr]
    exact congrArg String.toList htext
  rw [← Nat.ofDigitChars_ten_toDigits (n := k), hdigits, Nat.ofDigitChars_ten_toDigits]

theorem unitId_ne_overall (k n : Nat) : unitId k n ≠ overallId := by
  intro h
  have hslash := unitId_slash k n
  rw [h] at hslash
  revert hslash
  decide

/-- The ids of the lines of all replicas. -/
def lineIds (n : Nat) : List String := (List.range n).map fun i => unitId (i + 1) n

theorem mem_lineIds {id : String} : id ∈ lineIds n ↔ ∃ k, 1 ≤ k ∧ k ≤ n ∧ id = unitId k n := by
  simp only [lineIds, List.mem_map, List.mem_range]
  constructor
  · rintro ⟨i, hi, rfl⟩
    exact ⟨i + 1, Nat.succ_pos i, hi, rfl⟩
  · rintro ⟨k, hpos, hle, rfl⟩
    exact ⟨k - 1, by omega, by rw [Nat.sub_add_cancel hpos]⟩

theorem lineIds_nodup (n : Nat) : (overallId :: lineIds n).Nodup := by
  rw [List.nodup_cons]
  refine ⟨fun h => ?_, List.nodup_range.map fun i j h => Nat.succ.inj (unitId_inj h)⟩
  obtain ⟨k, -, -, hk⟩ := mem_lineIds.1 h
  exact unitId_ne_overall k n hk.symm

theorem startLines_ids (n : Nat) (rollback : Bool) :
    (startLines n rollback).map Event.id =
      overallId :: if n ≤ maxBars then lineIds n else [] := by
  unfold startLines
  split
  · rw [List.map_cons, List.map_map]
    rfl
  · rfl

theorem mem_unitEvents (he : e ∈ s.unitEvents n rollback slot t) :
    s.settled = false ∧ n ≤ maxBars ∧ s.ordinal slot ≤ n ∧
      e ∈ unitLine (unitId (s.ordinal slot) n) t rollback := by
  unfold unitEvents at he
  split at he
  · cases he
  · rename_i h
    simpa [and_assoc, he] using h

theorem unitEvents_length (s : Slots) (n : Nat) (rollback : Bool) (slot : Nat) (t : Task) :
    (s.unitEvents n rollback slot t).length ≤ 1 := by
  unfold unitEvents
  split
  · exact Nat.zero_le 1
  · exact unitLine_length ..

/-- Slots that were recorded have lines of their own. -/
theorem unitEvents_ids_nodup {ts : List Task} (hslots : (ts.map Task.slot).Nodup)
    (hseen : ∀ t ∈ ts, t.slot ∈ s.seen) (n : Nat) (rollback : Bool) :
    ((ts.flatMap fun t => s.unitEvents n rollback t.slot t).map Event.id).Nodup := by
  have hid : ∀ t id, id ∈ (s.unitEvents n rollback t.slot t).map Event.id →
      id = unitId (s.ordinal t.slot) n := by
    intro t id hid
    obtain ⟨e, he, rfl⟩ := List.mem_map.1 hid
    exact unitLine_id (mem_unitEvents he).2.2.2
  rw [List.map_flatMap, List.nodup_flatMap]
  refine ⟨fun t _ => ?_, (List.pairwise_map.1 hslots).imp_of_mem fun {t t'} ht ht' hne => ?_⟩
  · have hlength := s.unitEvents_length n rollback t.slot t
    rcases hevents : s.unitEvents n rollback t.slot t with _ | ⟨e, _ | ⟨e', rest⟩⟩
    · exact .nil
    · exact List.nodup_singleton _
    · simp [hevents] at hlength
  · refine List.disjoint_left.2 fun id h h' => ?_
    have hordinal := unitId_inj ((hid t id h).symm.trans (hid t' id h'))
    exact hne ((List.idxOf_inj (hseen t ht)).1 (Nat.succ.inj hordinal))

end Slots
end Update

/-! ## The lines of an update -/

namespace Updater

variable {u : Updater} {service : Service} {view : View} {p : Plan Updater} {target : Nat}

/-- What is remembered while the units are shown: all slots of the snapshot, and whether the updater
is still settled. -/
def underway (u : Updater) (target : Nat) (view : View) : Updater :=
  match u with
  | .replicated slots => .replicated ((slots.awake target view).recordAll view.slots)
  | .global nodes => .global (nodes.wake (tasksByNode view.tasks view.active))

/-- The line of the unit that a task stands for. -/
def unitEvents (u : Updater) (target : Nat) (rollback : Bool) (t : Task) : List Event :=
  match u with
  | .replicated slots => slots.unitEvents target rollback t.slot t
  | .global nodes => nodes.unitEvents target rollback t.nodeId t

/-- The lines of all units of a snapshot. -/
def unitLines (u : Updater) (target : Nat) (view : View) : List Event :=
  (u.tasks view).flatMap ((u.underway target view).unitEvents target view.rollback)

theorem unit_of_slot {x : Nat × Task} (hx : x ∈ tasksBySlot view.tasks view.active) :
    x.2.isRecognized = true ∧ x.2.slot = x.1 := by
  have hcounts := counts_of_unit hx
  exact ⟨hcounts.1, (counts_slotOf?.1 hcounts).2⟩

theorem unit_of_node {x : String × Task} (hx : x ∈ tasksByNode view.tasks view.active) :
    x.2.isRecognized = true ∧ x.2.nodeId = x.1 := by
  have hcounts := counts_of_unit hx
  exact ⟨hcounts.1, (counts_nodeOf?.1 hcounts).2⟩

theorem tasks_recognized {t : Task} (ht : t ∈ u.tasks view) : t.isRecognized = true := by
  cases u with
  | replicated slots =>
    obtain ⟨x, hx, rfl⟩ := List.mem_map.1 ht
    exact (unit_of_slot hx).1
  | global nodes =>
    obtain ⟨x, hx, rfl⟩ := List.mem_map.1 ht
    exact (unit_of_node hx).1

/-- The tasks of a replicated service stand for the slots. -/
theorem tasks_slots (slots : Update.Slots) (view : View) :
    ((replicated slots).tasks view).map Task.slot = view.slots := by
  rw [tasks, List.map_map, View.slots]
  exact List.map_congr_left fun x hx => (unit_of_slot hx).2

theorem mem_unitEvents {rollback : Bool} {t : Task} {e : Event}
    (he : e ∈ u.unitEvents target rollback t) :
    target ≤ maxBars ∧ ∃ id, e ∈ Update.unitLine id t rollback := by
  cases u with
  | replicated slots =>
    obtain ⟨-, hfew, -, hline⟩ := Update.Slots.mem_unitEvents he
    exact ⟨hfew, _, hline⟩
  | global nodes =>
    simp only [unitEvents, Update.Nodes.unitEvents] at he
    split at he
    · cases he
    · rename_i h
      rw [Bool.or_eq_true, not_or, decide_eq_true_iff, Nat.not_lt] at h
      exact ⟨h.2, _, he⟩

theorem walked_unitLines (slots : Update.Slots) (n : Nat) (view : View) :
    (slots.walked n view).1.map Emission.event = (replicated slots).unitLines n view := by
  rw [Update.Slots.walked, Update.Slots.walk_events, unitLines, tasks, List.flatMap_map]
  refine List.flatMap_congr fun x hx => ?_
  rw [← (unit_of_slot hx).2]
  rfl

theorem progress_unitLines (nodes : Update.Nodes) (view : View) :
    ∃ closing, (nodes.progress view.rollback (tasksByNode view.tasks view.active)).events =
        (global nodes).unitLines ((global nodes).tasks view).length view ++ closing ∧
      ∀ e ∈ closing, e.id = overallId ∧ e.bar = none := by
  have hlines : (global nodes).unitLines ((global nodes).tasks view).length view =
      (tasksByNode view.tasks view.active).flatMap fun x =>
        (nodes.wake (tasksByNode view.tasks view.active)).unitEvents
          (tasksByNode view.tasks view.active).length view.rollback x.1 x.2 := by
    rw [unitLines, tasks, List.flatMap_map, List.length_map]
    refine List.flatMap_congr fun x hx => ?_
    rw [← (unit_of_node hx).2]
    rfl
  rw [hlines]
  simp only [Update.Nodes.progress, Plan.events, List.map_map, List.map_append]
  refine ⟨_, congrArg (· ++ _) (List.map_id _), fun e he => ?_⟩
  obtain ⟨e, he, rfl⟩ := List.mem_map.1 he
  split at he
  · cases he
  · rw [List.mem_singleton.1 he]
    exact ⟨rfl, rfl⟩

/-- An update shows the start-up lines, those of the units, and the overall line. -/
theorem update?_events (hp : u.update? service view = some p)
    (ht : u.target? service view = some target) :
    ∃ closing, p.events = u.startLines service view ++ u.unitLines target view ++ closing ∧
      ∀ e ∈ closing, e.id = overallId ∧ e.bar = none := by
  cases u with
  | replicated slots =>
    obtain ⟨n, hn, rfl⟩ := Option.map_eq_some_iff.1 hp
    obtain rfl : n = target := Option.some.inj (hn.symm.trans ht)
    rw [startLines_replicated slots hn, ← walked_unitLines, Plan.events_map,
      Update.Slots.update_eq]
    simp only [Plan.events, List.map_append]
    refine ⟨_, rfl, fun e he => ?_⟩
    obtain ⟨x, hx, rfl⟩ := List.mem_map.1 he
    unfold Update.Slots.close at hx
    split at hx
    · cases hx
    · rw [List.mem_singleton.1 hx]
      exact ⟨rfl, rfl⟩
  | global nodes =>
    cases hp
    cases ht
    rw [Plan.events_map]
    rcases Update.Nodes.update_cases nodes view with ⟨hs, hu, hx⟩ | ⟨hs, hu, hx⟩ | ⟨hs, hx⟩
    · refine ⟨[Update.Nodes.waiting], ?_, by simp [Update.Nodes.waiting, Event.act]⟩
      rw [hx]
      simp [startLines, unitLines, tasks, hu, Plan.events]
    · obtain ⟨closing, hlines, hclosing⟩ := progress_unitLines { nodes with started := true } view
      have hstart : (global nodes).startLines service view =
          [Update.overall 0 (tasksByNode view.tasks view.active).length view.rollback] := by
        simp [startLines, started, hs, tasks, hu]
      refine ⟨closing, ?_, hclosing⟩
      rw [hx, hstart]
      exact congrArg (Update.overall 0 _ view.rollback :: ·) hlines
    · obtain ⟨closing, hlines, hclosing⟩ := progress_unitLines nodes view
      have hstart : (global nodes).startLines service view = [] := startLines_started hs
      refine ⟨closing, ?_, hclosing⟩
      rw [hx, hstart]
      exact hlines

theorem startLines_bar {e : Event} (he : e ∈ u.startLines service view) : e.bar = none := by
  unfold startLines at he
  split at he
  case isTrue => cases he
  case isFalse =>
    cases u with
    | replicated slots =>
      cases hn : service.replicas with
      | none => simp [hn] at he
      | some n =>
        simp only [hn, Option.map_some, Option.getD_some, Update.Slots.startLines] at he
        rcases List.mem_cons.1 he with rfl | he
        · rfl
        · split at he
          · obtain ⟨i, -, rfl⟩ := List.mem_map.1 he
            rfl
          · cases he
    | global nodes =>
      simp only at he
      split at he
      · cases he
      · rw [List.mem_singleton.1 he]
        rfl

/-- A new updater of replicas claims all lines in order. -/
theorem startLines_ids {slots : Update.Slots} (hnew : slots.started = false) {n : Nat}
    (hn : service.replicas = some n) :
    ((replicated slots).startLines service view).map Event.id =
      overallId :: if n ≤ maxBars then Update.Slots.lineIds n else [] := by
  simp only [startLines, started, hnew, hn, Bool.false_eq_true, if_false, Option.map_some,
    Option.getD_some]
  exact Update.Slots.startLines_ids n view.rollback

/-- The lines of a replicated service are the overall line and those of its replicas. -/
theorem update?_ids {slots : Update.Slots} {n : Nat} {e : Event}
    (hp : (replicated slots).update? service view = some p) (hn : service.replicas = some n)
    (he : e ∈ p.events) : e.id = overallId ∨ n ≤ maxBars ∧ e.id ∈ Update.Slots.lineIds n := by
  obtain ⟨closing, hevents, hclosing⟩ := update?_events hp hn
  rw [hevents, List.append_assoc] at he
  rcases List.mem_append.1 he with he | he
  · cases hs : slots.started with
    | true => simp [startLines, started, hs] at he
    | false =>
      have hid := List.mem_map_of_mem (f := Event.id) he
      rw [startLines_ids hs hn] at hid
      rcases List.mem_cons.1 hid with hid | hid
      · exact .inl hid
      · split at hid
        · exact .inr ⟨‹_›, hid⟩
        · cases hid
  · rcases List.mem_append.1 he with he | he
    · obtain ⟨t, -, ht⟩ := List.mem_flatMap.1 he
      obtain ⟨-, hfew, hordinal, hline⟩ := Update.Slots.mem_unitEvents ht
      refine .inr ⟨hfew, Update.Slots.mem_lineIds.2 ⟨_, Nat.succ_pos _, hordinal, ?_⟩⟩
      exact Update.unitLine_id hline
    · exact .inl (hclosing e he).1

/-- No two units of a replicated service share a line. -/
theorem unitLines_ids_nodup (slots : Update.Slots) (n : Nat) (view : View) :
    (((replicated slots).unitLines n view).map Event.id).Nodup := by
  refine Update.Slots.unitEvents_ids_nodup ?_ (fun t ht => ?_) n view.rollback
  · rw [tasks_slots]
    exact view.slots_nodup
  · refine Update.Slots.mem_recordAll.2 (.inl ?_)
    rw [← tasks_slots slots view]
    exact List.mem_map_of_mem ht

end Updater

/-! ## The order of the lines -/

theorem eraseDups_of_nodup {ids : List String} (h : ids.Nodup) : ids.eraseDups = ids := by
  induction ids with
  | nil => rfl
  | cons id ids ih =>
    obtain ⟨hnew, hrest⟩ := List.nodup_cons.1 h
    have hothers : (ids.filter fun x => !x == id) = ids := by
      refine List.filter_eq_self.2 fun x hx => ?_
      have hne : x ≠ id := fun heq => hnew (heq ▸ hx)
      simpa using hne
    rw [List.eraseDups_cons, hothers, ih hrest]

theorem eraseDups_append_of_subset {ids more : List String} (h : more ⊆ ids) :
    (ids ++ more).eraseDups = ids.eraseDups := by
  have hnone : more.removeAll ids = [] := by
    refine List.filter_eq_nil_iff.2 fun x hx => ?_
    simpa using h hx
  rw [List.eraseDups_append, hnone, List.eraseDups_nil, List.append_nil]

/-- As long as the replica count stays, the lines appear in order. -/
theorem ids_in_order {n : Nat} (hn : n ≤ maxBars) {as : List Attempt} (has : as ≠ [])
    (hall : ∀ a ∈ as, a.service.replicas = some n ∧ a.refused = none) :
    (((Updater.replicated .fresh).after as).events.map Event.id).eraseDups =
      overallId :: Update.Slots.lineIds n := by
  induction as using List.reverseRecOn with
  | nil => cases has rfl
  | append_singleton as a ih =>
    obtain ⟨hreplicas, hrefused⟩ := hall a (by simp)
    obtain ⟨hslots, -⟩ := Update.Slots.after_replicated as
    obtain ⟨p, hp⟩ : ∃ p, ((Updater.replicated .fresh).after as).updater.update? a.service a.view =
        some p := by
      rw [hslots, Updater.update?, hreplicas]
      exact ⟨_, rfl⟩
    have hstep : ((Updater.replicated .fresh).after (as ++ [a])).events =
        ((Updater.replicated .fresh).after as).events ++ p.events := by
      rw [Updater.after_concat, Shown.attempt, hp, hrefused]
      rfl
    rw [hslots] at hp
    have hids : ∀ e ∈ p.events, e.id ∈ overallId :: Update.Slots.lineIds n := fun e he =>
      List.mem_cons.2 ((Updater.update?_ids hp hreplicas he).imp_right And.right)
    rw [hstep, List.map_append]
    by_cases hfirst : as = []
    · subst hfirst
      obtain ⟨closing, hevents, -⟩ := Updater.update?_events hp hreplicas
      have hnew : (Update.Slots.after []).started = false := rfl
      have hnone : ((Updater.replicated .fresh).after []).events = [] := rfl
      rw [List.append_assoc] at hevents
      rw [hnone, List.map_nil, List.nil_append, hevents, List.map_append,
        Updater.startLines_ids hnew hreplicas, if_pos hn, eraseDups_append_of_subset,
        eraseDups_of_nodup (Update.Slots.lineIds_nodup n)]
      intro id hid
      obtain ⟨e, he, rfl⟩ := List.mem_map.1 hid
      exact hids e (hevents ▸ List.mem_append_right _ he)
    · have hold := ih hfirst fun a ha => hall a (by simp [ha])
      rw [eraseDups_append_of_subset, hold]
      intro id hid
      obtain ⟨e, he, rfl⟩ := List.mem_map.1 hid
      rw [← List.mem_eraseDups, hold]
      exact hids e he

/-- What an update shows: the start-up lines, the lines of the units, and the overall line. A line
with a bar is that of a task on its way, shown by an updater that is not settled, of at most twenty
units: so many replicas as there should be, or nodes. Replicas have lines of their own, and as long
as their count stays these appear in order. -/
theorem unit_events {first : Service} {u : Updater} (hu : Updater.ofService? first = some u)
    (as : List Attempt) :
    let now := (u.after as).updater
    (∀ service view p, now.update? service view = some p →
      ∃ target closing, now.target? service view = some target ∧
        p.events = now.startLines service view ++ now.unitLines target view ++ closing ∧
        (∀ x ∈ p.emissions, x.held.settled = false) ∧
        (∀ e ∈ now.startLines service view ++ closing, e.bar = none) ∧
        (∀ t ∈ now.tasks view, ∀ e ∈ (now.underway target view).unitEvents target view.rollback t,
          ∀ b, e.bar = some b →
            t.isLive = true ∧ target ≤ maxBars ∧ e.action.length = 9 ∧ b.FitsUnit view.rollback) ∧
        (u.isReplicated = true →
          (∀ e ∈ p.events, e.id = overallId ∨
            ∃ k, 1 ≤ k ∧ k ≤ target ∧ target ≤ maxBars ∧ e.id = Update.Slots.unitId k target) ∧
          ((now.unitLines target view).map Event.id).Nodup)) ∧
    ∀ n ≤ maxBars, u.isReplicated = true → as ≠ [] →
      (∀ a ∈ as, a.service.replicas = some n ∧ a.refused = none) →
        ((u.after as).events.map Event.id).eraseDups =
          overallId :: (List.range n).map fun i => Update.Slots.unitId (i + 1) n := by
  intro now
  have hfresh : u.isReplicated = true → u = .replicated .fresh := by
    intro hkind
    unfold Updater.ofService? at hu
    repeat' split at hu
    · exact (Option.some.inj hu).symm
    · rw [← Option.some.inj hu] at hkind
      cases hkind
    · cases hu
  refine ⟨fun service view p hp => ?_, fun n hn hkind has hall => ?_⟩
  · obtain ⟨target, ht⟩ := Updater.target?_of_update hp
    obtain ⟨closing, hevents, hclosing⟩ := Updater.update?_events hp ht
    refine ⟨target, closing, ht, hevents,
      (Updater.update?_held (told_after hu as).started hp).1, fun e he => ?_, ?_, fun hkind => ?_⟩
    · rcases List.mem_append.1 he with he | he
      · exact Updater.startLines_bar he
      · exact (hclosing e he).2
    · intro t ht e he b hb
      obtain ⟨hfew, id, hline⟩ := Updater.mem_unitEvents he
      obtain ⟨hlive, hfits, hwidth⟩ :=
        Update.unitLine_bar hline (Updater.tasks_recognized ht) hb
      exact ⟨hlive, hfew, hwidth, hfits⟩
    · have hnow : now = .replicated (Update.Slots.after as) := by
        simp only [now, hfresh hkind]
        exact (Update.Slots.after_replicated as).1
      rw [hnow] at hp ht ⊢
      refine ⟨fun e he => ?_, Updater.unitLines_ids_nodup ..⟩
      refine (Updater.update?_ids hp ht he).imp_right ?_
      rintro ⟨hfew, hid⟩
      obtain ⟨k, hpos, hle, hk⟩ := Update.Slots.mem_lineIds.1 hid
      exact ⟨k, hpos, hle, hfew, hk⟩
  · rw [hfresh hkind]
    exact ids_in_order hn has hall

/-- Two replicas in slots 4 and 7. In a rollback the one that runs is shown with an empty bar, and
the one that is starting is shown with one step. -/
theorem unit_events_of_rollback :
    let task (slot : Nat) (observed : TaskState) : Task :=
      ⟨"t", "web", "a", slot, .running, ⟨observed, "", ""⟩⟩
    let service : Service := ⟨"web", ⟨"web", .ofReplicas 2, none⟩, none⟩
    let view : View := ⟨[task 7 .running, task 4 .starting], ["a"], true⟩
    let shown := (Updater.replicated .fresh).after [⟨service, view, none⟩]
    Updater.ofService? service = some (.replicated .fresh) ∧
      (shown.events.map Event.id).eraseDups = [overallId, "1/2", "2/2"] ∧
      ∃ p, shown.updater.update? service view = some p ∧
        p.events = [.withBar "1/2" "starting " 1 9, .withBar "2/2" "running  " 0 9,
          .act overallId "rolling back update: 1 out of 2 tasks"] ∧
        ∀ x ∈ p.emissions, x.held.settled = false := by
  intro task service view shown
  have hu : Updater.ofService? service = some (.replicated .fresh) := rfl
  have hnow : shown.updater = .replicated ⟨[4, 7], true, false⟩ := by decide +kernel
  obtain ⟨hupdate, horder⟩ := unit_events hu [⟨service, view, none⟩]
  have hp : shown.updater.update? service view =
      some ((Update.Slots.update ⟨[4, 7], true, false⟩ 2 view).map .replicated) := by
    rw [hnow]
    rfl
  obtain ⟨-, -, -, -, hloud, -⟩ := hupdate service view _ hp
  refine ⟨hu, ?_, _, hp, by decide +kernel, hloud⟩
  rw [horder 2 (by decide) rfl (by simp) (by simp; decide)]
  decide +kernel

end Rollout
