import Mathlib.Data.List.Infix
import Mathlib.Data.Set.Function
import Mathlib.Order.Interval.Set.Defs
import Rollout.Proofs.Reduction
import Rollout.Proofs.Update.Replicated

/-!
The ordinals of slots. An update records the slots of its snapshot in ascending order, as far as it
comes, and no update forgets one: so the ordinals are the numbers from one on, each stays with its
slot, and they follow the order in which the slots were recorded (`slot_numbering`).
-/

namespace Rollout

/-- The slots that have a canonical task. -/
def View.slots (view : View) : List Nat := (tasksBySlot view.tasks view.active).map Prod.fst

theorem View.slots_ascending (view : View) : view.slots.Pairwise (· < ·) :=
  (tasksBySlot_reduces view.tasks view.active).ascending

theorem View.slots_nodup (view : View) : view.slots.Nodup :=
  view.slots_ascending.imp fun h => Nat.ne_of_lt h

namespace Update.Slots

variable {s : Slots} {replicas : Nat} {rollback : Bool} {units : List (Nat × Task)} {view : View}
  {slots : List Nat}

/-! ## Recording slots -/

theorem mem_record {slot x : Nat} : x ∈ (s.record slot).seen ↔ x = slot ∨ x ∈ s.seen := by
  unfold record
  split
  case isTrue hmem =>
    refine ⟨.inr, ?_⟩
    rintro (rfl | hx)
    · exact hmem
    · exact hx
  case isFalse => simp [or_comm]

/-- Adds the slots of a list that were not seen yet. -/
def recordAll (s : Slots) (slots : List Nat) : Slots := slots.foldl record s

theorem recordAll_append (s : Slots) (before after : List Nat) :
    s.recordAll (before ++ after) = (s.recordAll before).recordAll after := List.foldl_append

@[simp] theorem recordAll_started (s : Slots) (slots : List Nat) :
    (s.recordAll slots).started = s.started := by
  induction slots generalizing s with
  | nil => rfl
  | cons slot slots ih => exact (ih _).trans (record_started ..)

@[simp] theorem recordAll_settled (s : Slots) (slots : List Nat) :
    (s.recordAll slots).settled = s.settled := by
  induction slots generalizing s with
  | nil => rfl
  | cons slot slots ih => exact (ih _).trans (record_settled ..)

theorem mem_recordAll {x : Nat} : x ∈ (s.recordAll slots).seen ↔ x ∈ slots ∨ x ∈ s.seen := by
  induction slots generalizing s with
  | nil => simp [recordAll]
  | cons slot slots ih =>
    have hrest := ih (s := s.record slot)
    rw [mem_record] at hrest
    rw [recordAll, List.foldl_cons, ← recordAll, hrest, List.mem_cons, or_left_comm, or_assoc]

/-- Slots that were seen before are not recorded again. -/
theorem recordAll_known (h : ∀ slot ∈ slots, slot ∈ s.seen) : s.recordAll slots = s := by
  induction slots with
  | nil => rfl
  | cons slot slots ih =>
    have hslot : s.record slot = s := if_pos (h slot (by simp))
    rw [recordAll, List.foldl_cons, hslot]
    exact ih fun x hx => h x (by simp [hx])

/-- To begin again changes nothing: the first slots are there already. -/
theorem recordAll_again (s : Slots) (before after : List Nat) :
    (s.recordAll before).recordAll (before ++ after) = s.recordAll (before ++ after) := by
  rw [recordAll_append, recordAll_known fun slot hslot => mem_recordAll.2 (.inl hslot),
    ← recordAll_append]

/-- New slots are added behind the others, in their order. -/
theorem recordAll_seen (s : Slots) (h : slots.Nodup) :
    (s.recordAll slots).seen = s.seen ++ slots.filter (· ∉ s.seen) := by
  induction slots generalizing s with
  | nil => simp [recordAll]
  | cons slot slots ih =>
    obtain ⟨hslot, hrest⟩ := List.nodup_cons.1 h
    rw [recordAll, List.foldl_cons, ← recordAll, ih (s.record slot) hrest]
    by_cases hseen : slot ∈ s.seen
    · have hsame : s.record slot = s := if_pos hseen
      rw [hsame, List.filter_cons_of_neg (by simpa using hseen)]
    · have hadded : (s.record slot).seen = s.seen ++ [slot] := by simp [record, hseen]
      have hothers : slots.filter (· ∉ (s.record slot).seen) = slots.filter (· ∉ s.seen) := by
        refine List.filter_congr fun x hx => ?_
        have hne : x ≠ slot := fun heq => hslot (heq ▸ hx)
        simp [hadded, hne]
      rw [hothers, hadded, List.filter_cons_of_pos (by simpa using hseen), List.append_assoc]
      rfl

theorem seen_prefix_record (s : Slots) (slot : Nat) : s.seen <+: (s.record slot).seen := by
  unfold record
  split
  · exact List.prefix_refl _
  · exact List.prefix_append _ _

theorem seen_prefix_recordAll (s : Slots) (slots : List Nat) :
    s.seen <+: (s.recordAll slots).seen := by
  induction slots generalizing s with
  | nil => exact List.prefix_refl _
  | cons slot slots ih => exact (seen_prefix_record s slot).trans (ih _)

/-! ## What a walk records -/

theorem walk_final (s : Slots) (units : List (Nat × Task)) :
    (walk replicas rollback s units).2 = s.recordAll (units.map Prod.fst) := by
  induction units generalizing s with
  | nil => rfl
  | cons u units ih => exact ih _

/-- An event that is refused leaves the state with the slots up to its own. -/
theorem walk_held_recorded {e : Emission Slots} (he : e ∈ (walk replicas rollback s units).1) :
    ∃ before, before <+: units.map Prod.fst ∧ e.held = s.recordAll before := by
  induction units generalizing s with
  | nil => cases he
  | cons u units ih =>
    rw [walk, List.mem_append] at he
    rcases he with he | he
    · obtain ⟨event, -, rfl⟩ := List.mem_map.1 he
      exact ⟨[u.1], by simp, rfl⟩
    · obtain ⟨before, hbefore, hheld⟩ := ih he
      exact ⟨u.1 :: before, by simpa using hbefore, hheld⟩

/-- An update that is broken off at its start-up lines leaves the state before all slots, else one
with some of them. -/
theorem update_held_cases {n : Nat} {e : Emission Slots}
    (he : (s.update replicas view).emissions[n]? = some e) :
    let first := (s.start replicas view.rollback).1
    n < first.length ∧ e ∈ first ∨
      first.length ≤ n ∧ ∃ before, before <+: view.slots ∧
        e.held = (s.awake replicas view).recordAll before ∧
        (s.awake replicas view).settled = false := by
  intro first
  rw [update_eq] at he
  simp only [List.append_assoc] at he
  rcases Nat.lt_or_ge n first.length with hn | hn
  · rw [List.getElem?_append_left hn] at he
    exact .inl ⟨hn, List.mem_of_getElem? he⟩
  · rw [List.getElem?_append_right hn] at he
    refine .inr ⟨hn, ?_⟩
    rcases List.mem_append.1 (List.mem_of_getElem? he) with he | he
    · obtain ⟨before, hbefore, hheld⟩ := walk_held_recorded he
      refine ⟨before, hbefore, hheld, ?_⟩
      rw [Bool.eq_false_iff]
      intro hset
      rw [walked, walk_quiet hset] at he
      cases he
    · unfold close at he
      split at he
      · cases he
      · rename_i hloud
        rw [walked_settled] at hloud
        refine ⟨view.slots, List.prefix_refl _, ?_, by simpa using hloud⟩
        rw [List.mem_singleton.1 he]
        exact walk_final _ _

theorem ordinal_recordAll {slot : Nat} (h : slot ∈ s.seen) (slots : List Nat) :
    (s.recordAll slots).ordinal slot = s.ordinal slot := by
  obtain ⟨new, hnew⟩ := s.seen_prefix_recordAll slots
  rw [ordinal, ordinal, ← hnew, List.idxOf_append_of_mem h]

/-- Each slot is shown under the ordinal that it has at the end. -/
theorem walk_events (s : Slots) (units : List (Nat × Task)) :
    (walk replicas rollback s units).1.map Emission.event =
      units.flatMap fun u =>
        (s.recordAll (units.map Prod.fst)).unitEvents replicas rollback u.1 u.2 := by
  induction units generalizing s with
  | nil => rfl
  | cons u units ih =>
    have hseen : u.1 ∈ (s.record u.1).seen := mem_record.2 (.inl rfl)
    have hfinal : s.recordAll ((u :: units).map Prod.fst) =
        (s.record u.1).recordAll (units.map Prod.fst) := rfl
    have hown :
        ((s.record u.1).recordAll (units.map Prod.fst)).unitEvents replicas rollback u.1 u.2 =
          (s.record u.1).unitEvents replicas rollback u.1 u.2 := by
      rw [unitEvents, unitEvents, ordinal_recordAll hseen, recordAll_settled]
    rw [walk, List.flatMap_cons, hfinal, hown, ← ih (s.record u.1), List.map_append, List.map_map]
    simp [Function.comp_def]

theorem awake_seen (hs : s.started = false → s.seen = []) (replicas : Nat) (view : View) :
    (s.awake replicas view).seen = s.seen := by
  simp only [awake, wake, start]
  split
  · rfl
  · rename_i hnew
    exact (hs (by simpa using hnew)).symm

/-- An attempt adds a beginning of the slots of its snapshot, and all of them if it is carried out.
Before the start-up lines are written there are none. -/
theorem attempt_records (hs : s.started = false → s.seen = []) (replicas : Nat) (view : View)
    (refused : Option Nat) :
    let x := (s.update replicas view).attempt refused
    (x.state.started = false → x.state.seen = []) ∧
      ∃ before, before <+: view.slots ∧ x.state.seen = s.seen ++ before.filter (· ∉ s.seen) ∧
        (x.converged.isSome = true → before = view.slots) := by
  have hawake := s.awake_seen hs replicas view
  have hstarted : (s.awake replicas view).started = true := by
    rw [awake, wake_started, start_started]
  have hseen : ∀ before, before <+: view.slots →
      ((s.awake replicas view).recordAll before).seen = s.seen ++ before.filter (· ∉ s.seen) := by
    intro before hbefore
    rw [recordAll_seen _ (view.slots_nodup.sublist hbefore.sublist), hawake]
  rcases (s.update replicas view).attempt_cases refused with hx | ⟨n, e, -, he, hx⟩
  · rw [hx]
    refine ⟨fun hnew => ?_, view.slots, List.prefix_refl _, ?_, fun _ => rfl⟩
    · rw [update_started] at hnew
      cases hnew
    · rw [← hseen _ (List.prefix_refl _), update_eq]
      simp only [close_final, walked, walk_final]
      rfl
  · rw [hx]
    rcases update_held_cases he with ⟨-, hstart⟩ | ⟨-, before, hbefore, hheld, -⟩
    · have hnone : e.held.seen = [] := by
        unfold start at hstart
        split at hstart
        · cases hstart
        · obtain ⟨event, -, rfl⟩ := List.mem_map.1 hstart
          rfl
      have hempty : s.seen = [] := hs (start_held hstart).2
      refine ⟨fun _ => hnone, [], List.nil_prefix, ?_, fun h => by cases h⟩
      simp [hnone, hempty]
    · refine ⟨fun hnew => ?_, before, hbefore, ?_, fun h => by cases h⟩
      · rw [hheld, recordAll_started, hstarted] at hnew
        cases hnew
      · rw [hheld, hseen before hbefore]

end Update.Slots

/-! ## Runs of an updater of slots -/

/-- What an updater remembers of slots. -/
def Updater.slots : Updater → Update.Slots
  | .replicated slots => slots
  | .global _ => .fresh

namespace Update.Slots

/-- What an updater remembers that was asked for some updates from the beginning on. -/
def after (as : List Attempt) : Slots := ((Updater.replicated .fresh).after as).updater.slots

theorem attempt_replicated {shown : Shown} {s : Slots} (hs : shown.updater = .replicated s)
    (hnew : s.started = false → s.seen = []) (a : Attempt) :
    ∃ s', (shown.attempt a).updater = .replicated s' ∧ (s'.started = false → s'.seen = []) ∧
      ∃ before, before <+: a.view.slots ∧ s'.seen = s.seen ++ before.filter (· ∉ s.seen) ∧
        (shown.updater.carriesOut a = true → before = a.view.slots) := by
  cases hn : a.service.replicas with
  | none =>
    have hp : shown.updater.update? a.service a.view = none := by
      rw [hs, Updater.update?, hn]
      rfl
    refine ⟨s, by simpa only [Shown.attempt, hp] using hs, hnew, [], List.nil_prefix, by simp, ?_⟩
    intro h
    rw [Updater.carriesOut, hp] at h
    cases h
  | some n =>
    have hp : shown.updater.update? a.service a.view =
        some ((s.update n a.view).map .replicated) := by
      rw [hs, Updater.update?, hn]
      rfl
    obtain ⟨hnew', before, hbefore, hseen, hall⟩ :=
      attempt_records hnew n a.view a.refused
    refine ⟨_, by simp only [Shown.attempt, hp, Plan.state_attempt_map], hnew', before, hbefore,
      hseen, fun h => hall ?_⟩
    rwa [Updater.carriesOut, hp, Option.bind_some, Plan.converged_attempt_map] at h

theorem after_replicated (as : List Attempt) :
    ((Updater.replicated .fresh).after as).updater = .replicated (after as) ∧
      ((after as).started = false → (after as).seen = []) := by
  have hrun : ∃ s, ((Updater.replicated .fresh).after as).updater = .replicated s ∧
      (s.started = false → s.seen = []) := by
    refine Shown.run_ind (P := fun shown => ∃ s, shown.updater = .replicated s ∧
      (s.started = false → s.seen = [])) ⟨.fresh, rfl, fun _ => rfl⟩ ?_ as
    rintro shown a ⟨s, hs, hnew⟩
    obtain ⟨s', hs', hnew', -⟩ := attempt_replicated hs hnew a
    exact ⟨s', hs', hnew'⟩
  obtain ⟨s, hs, hnew⟩ := hrun
  have hafter : after as = s := by rw [after, hs, Updater.slots]
  exact ⟨by rw [hs, hafter], by rwa [hafter]⟩

/-- One more attempt adds slots of its snapshot behind the others. -/
theorem after_snoc (as : List Attempt) (a : Attempt) :
    ∃ before, before <+: a.view.slots ∧
      (after (as ++ [a])).seen = (after as).seen ++ before.filter (· ∉ (after as).seen) ∧
      (((Updater.replicated .fresh).after as).updater.carriesOut a = true →
        before = a.view.slots) := by
  obtain ⟨hs, hnew⟩ := after_replicated as
  obtain ⟨s', hs', -, hbefore⟩ := attempt_replicated hs hnew a
  have hafter : after (as ++ [a]) = s' := by
    rw [after, Updater.after_concat]
    exact congrArg Updater.slots hs'
  rwa [hafter]

theorem seen_nodup (as : List Attempt) : (after as).seen.Nodup := by
  induction as using List.reverseRecOn with
  | nil => exact .nil
  | append_singleton as a ih =>
    obtain ⟨before, hbefore, hseen, -⟩ := after_snoc as a
    rw [hseen, List.nodup_append]
    refine ⟨ih, (a.view.slots_nodup.sublist hbefore.sublist).filter _, ?_⟩
    rintro x hx y hy rfl
    simp [hx] at hy

/-- No slot is forgotten, and none changes its place. -/
theorem seen_kept (as more : List Attempt) : (after as).seen <+: (after (as ++ more)).seen := by
  induction more using List.reverseRecOn with
  | nil => simp
  | append_singleton more a ih =>
    obtain ⟨before, -, hseen, -⟩ := after_snoc (as ++ more) a
    rw [← List.append_assoc, hseen]
    exact ih.trans (List.prefix_append _ _)

/-- An attempt that is carried out has recorded all slots of its snapshot. -/
theorem mem_seen_of_carriesOut {as : List Attempt} {a : Attempt} {slot : Nat}
    (h : ((Updater.replicated .fresh).after as).updater.carriesOut a = true)
    (hslot : slot ∈ a.view.slots) : slot ∈ (after (as ++ [a])).seen := by
  obtain ⟨before, -, hseen, hall⟩ := after_snoc as a
  rw [hseen, List.mem_append, List.mem_filter]
  by_cases hold : slot ∈ (after as).seen
  · exact .inl hold
  · exact .inr ⟨hall h ▸ hslot, by simpa using hold⟩

/-! ## The order of the ordinals -/

/-- How many attempts it took until a slot was recorded. -/
def recordedBy (as : List Attempt) (slot : Nat) : Nat :=
  as.inits.findIdx fun before => decide (slot ∈ (after before).seen)

/-- One slot was recorded by an earlier attempt than the other, or by the same one and is the
smaller. -/
def Precedes (as : List Attempt) (x y : Nat) : Prop :=
  recordedBy as x < recordedBy as y ∨ recordedBy as x = recordedBy as y ∧ x < y

theorem mem_seen_later {as before : List Attempt} (h : before <+: as) {slot : Nat}
    (hslot : slot ∈ (after before).seen) : slot ∈ (after as).seen := by
  obtain ⟨more, rfl⟩ := h
  exact (seen_kept before more).subset hslot

theorem recordedBy_le {as : List Attempt} {slot : Nat} :
    recordedBy as slot ≤ as.length ↔ slot ∈ (after as).seen := by
  rw [← Nat.lt_add_one_iff, ← List.length_inits, recordedBy, List.findIdx_lt_length]
  constructor
  · rintro ⟨before, hbefore, hslot⟩
    exact mem_seen_later ((List.mem_inits _ _).1 hbefore) (by simpa using hslot)
  · intro hslot
    exact ⟨as, (List.mem_inits _ _).2 (List.prefix_refl _), by simpa using hslot⟩

theorem inits_snoc (as : List Attempt) (a : Attempt) :
    (as ++ [a]).inits = as.inits ++ [as ++ [a]] := by
  simp [List.inits_append]

/-- An attempt records a slot only if none did before. -/
theorem recordedBy_snoc (as : List Attempt) (a : Attempt) (slot : Nat) :
    recordedBy (as ++ [a]) slot =
      if slot ∈ (after as).seen then recordedBy as slot
      else as.length + 1 + if slot ∈ (after (as ++ [a])).seen then 0 else 1 := by
  have hbefore : recordedBy as slot < as.length + 1 ↔ slot ∈ (after as).seen := by
    rw [Nat.lt_add_one_iff, recordedBy_le]
  simp only [recordedBy] at hbefore ⊢
  rw [inits_snoc, List.findIdx_append, List.length_inits]
  simp only [hbefore, List.findIdx_cons, List.findIdx_nil]
  split
  · rfl
  · split <;> simp_all [Nat.add_comm]

theorem seen_ordered (as : List Attempt) : (after as).seen.Pairwise (Precedes as) := by
  induction as using List.reverseRecOn with
  | nil => exact .nil
  | append_singleton as a ih =>
    obtain ⟨before, hbefore, hseen, -⟩ := after_snoc as a
    have hnew : ∀ slot ∈ before.filter (· ∉ (after as).seen),
        recordedBy (as ++ [a]) slot = as.length + 1 := by
      intro slot hslot
      have hunseen : slot ∉ (after as).seen := by simpa using (List.mem_filter.1 hslot).2
      have hseen' : slot ∈ (after (as ++ [a])).seen := by
        rw [hseen]
        exact List.mem_append_right _ hslot
      rw [recordedBy_snoc, if_neg hunseen, if_pos hseen']
    have hold : ∀ slot ∈ (after as).seen, recordedBy (as ++ [a]) slot = recordedBy as slot := by
      intro slot hslot
      rw [recordedBy_snoc, if_pos hslot]
    rw [hseen, List.pairwise_append]
    refine ⟨ih.imp_of_mem fun hx hy h => ?_, ?_, fun x hx y hy => .inl ?_⟩
    · rw [Precedes, hold _ hx, hold _ hy]
      exact h
    · have hascending : (before.filter (· ∉ (after as).seen)).Pairwise (· < ·) :=
        (a.view.slots_ascending.sublist hbefore.sublist).filter _
      exact hascending.imp_of_mem fun hx hy h => .inr ⟨(hnew _ hx).trans (hnew _ hy).symm, h⟩
    · rw [hold x hx, hnew y hy]
      exact Nat.lt_succ_of_le (recordedBy_le.2 hx)

/-- Ordinals follow the order in which the slots were recorded. -/
theorem ordinal_lt_iff {as : List Attempt} {x y : Nat} (hx : x ∈ (after as).seen)
    (hy : y ∈ (after as).seen) :
    (after as).ordinal x < (after as).ordinal y ↔ Precedes as x y := by
  have hahead : ∀ {x y : Nat}, x ∈ (after as).seen → y ∈ (after as).seen →
      (after as).ordinal x < (after as).ordinal y → Precedes as x y := by
    intro x y hx hy hlt
    have hpairs := List.pairwise_iff_getElem.1 (seen_ordered as) _ _
      (List.idxOf_lt_length_of_mem hx) (List.idxOf_lt_length_of_mem hy) (Nat.lt_of_succ_lt_succ hlt)
    rwa [List.getElem_idxOf, List.getElem_idxOf] at hpairs
  refine ⟨hahead hx hy, fun hprecedes => ?_⟩
  rcases Nat.lt_trichotomy ((after as).ordinal x) ((after as).ordinal y) with hlt | heq | hgt
  · exact hlt
  · have hsame : x = y := (List.idxOf_inj hx).1 (Nat.succ.inj heq)
    subst hsame
    rcases hprecedes with h | ⟨-, h⟩
    · exact absurd h (Nat.lt_irrefl _)
    · exact absurd h (Nat.lt_irrefl _)
  · have hback := hahead hy hx hgt
    unfold Precedes at hprecedes hback
    omega

theorem ordinal_bijOn {s : Slots} (h : s.seen.Nodup) :
    Set.BijOn s.ordinal {slot | slot ∈ s.seen} (Set.Icc 1 s.seen.length) := by
  refine ⟨fun slot hslot => ⟨Nat.le_add_left _ _, List.idxOf_lt_length_of_mem hslot⟩,
    fun x hx y _ heq => (List.idxOf_inj hx).1 (Nat.succ.inj heq), ?_⟩
  rintro k ⟨hpos, hle⟩
  refine ⟨s.seen[k - 1], List.getElem_mem _, ?_⟩
  rw [ordinal, h.idxOf_getElem]
  omega

/-! ## Slots that a snapshot lists -/

/-- How many attempts it took until a slot was in a snapshot. -/
def listedBy (as : List Attempt) (slot : Nat) : Nat :=
  as.findIdx (fun a => decide (slot ∈ a.view.slots)) + 1

theorem listedBy_le {as : List Attempt} {a : Attempt} {slot : Nat} (ha : a ∈ as)
    (hslot : slot ∈ a.view.slots) : listedBy as slot ≤ as.length :=
  List.findIdx_lt_length.2 ⟨a, ha, by simpa using hslot⟩

theorem listedBy_append {as : List Attempt} {slot : Nat} (h : listedBy as slot ≤ as.length)
    (more : List Attempt) : listedBy (as ++ more) slot = listedBy as slot := by
  unfold listedBy at h ⊢
  rw [List.findIdx_append, if_pos (Nat.lt_of_succ_le h)]

/-- No slot is recorded before it is in a snapshot. -/
theorem listedBy_le_recordedBy {as : List Attempt} {slot : Nat} (h : slot ∈ (after as).seen) :
    listedBy as slot ≤ recordedBy as slot := by
  induction as using List.reverseRecOn with
  | nil => cases h
  | append_singleton as a ih =>
    by_cases hold : slot ∈ (after as).seen
    · have hle := ih hold
      rw [recordedBy_snoc, if_pos hold,
        listedBy_append (hle.trans (recordedBy_le.2 hold)) [a]]
      exact hle
    · obtain ⟨before, hbefore, hseen, -⟩ := after_snoc as a
      have hnew : slot ∈ before.filter (· ∉ (after as).seen) := by
        rw [hseen, List.mem_append] at h
        exact h.resolve_left hold
      have hlast : a ∈ as ++ [a] := by simp
      have hlisted := listedBy_le hlast (hbefore.subset (List.mem_filter.1 hnew).1)
      rw [recordedBy_snoc, if_neg hold, if_pos h]
      simpa using hlisted

theorem recordedBy_append {as : List Attempt} {slot : Nat} (h : slot ∈ (after as).seen)
    (more : List Attempt) : recordedBy (as ++ more) slot = recordedBy as slot := by
  induction more using List.reverseRecOn with
  | nil => rw [List.append_nil]
  | append_singleton more a ih =>
    rw [← List.append_assoc, recordedBy_snoc, if_pos ((seen_kept as more).subset h), ih]

/-- A slot is recorded by the first attempt that has it in its snapshot, if that one is carried
out. -/
theorem recordedBy_listed {before more : List Attempt} {a : Attempt} {slot : Nat}
    (hfirst : listedBy (before ++ a :: more) slot = before.length + 1)
    (hdone : ((Updater.replicated .fresh).after before).updater.carriesOut a = true) :
    recordedBy (before ++ a :: more) slot = listedBy (before ++ a :: more) slot := by
  have hslot : slot ∈ a.view.slots := by
    have hat : (before ++ a :: more).findIdx (fun a => decide (slot ∈ a.view.slots)) =
        before.length := Nat.succ.inj hfirst
    have hfound := List.findIdx_eq (by simp) |>.1 hat
    simpa using hfound.1
  have hseen := mem_seen_of_carriesOut hdone hslot
  have hsplit : before ++ a :: more = before ++ [a] ++ more := by simp
  have hle := recordedBy_le.2 hseen
  rw [List.length_append, List.length_singleton] at hle
  rw [hsplit] at hfirst ⊢
  have hge := listedBy_le_recordedBy ((seen_kept (before ++ [a]) more).subset hseen)
  rw [recordedBy_append hseen] at hge ⊢
  omega

/-- The ordinals of the slots that were recorded are the numbers from one on, one for each slot.
Whatever comes later, a slot keeps its ordinal, and no other slot gets it. Ordinals follow the
attempts that recorded the slots, and within an attempt the slots. That is the first attempt that
has the slot in its snapshot, unless it is broken off before it comes to the slot: an attempt
records the slots of its snapshot up to where it is broken off, and all of them if it is carried
out. -/
theorem slot_numbering (as : List Attempt) :
    let s := after as
    Set.BijOn s.ordinal {slot | slot ∈ s.seen} (Set.Icc 1 s.seen.length) ∧
    (∀ more, ∀ slot ∈ s.seen,
      let later := after (as ++ more)
      slot ∈ later.seen ∧ later.ordinal slot = s.ordinal slot ∧
        ∀ other ∈ later.seen, later.ordinal other = s.ordinal slot → other = slot) ∧
    (∀ x ∈ s.seen, ∀ y ∈ s.seen, s.ordinal x < s.ordinal y ↔ Precedes as x y) ∧
    (∀ slot ∈ s.seen, listedBy as slot ≤ recordedBy as slot ∧
      ∀ before a more, as = before ++ a :: more → listedBy as slot = before.length + 1 →
        ((Updater.replicated .fresh).after before).updater.carriesOut a = true →
          recordedBy as slot = listedBy as slot) ∧
    ∀ a, let next := after (as ++ [a])
      (∃ before, before <+: a.view.slots ∧
        next.seen = s.seen ++ before.filter (· ∉ s.seen)) ∧
      (((Updater.replicated .fresh).after as).updater.carriesOut a = true →
        ∀ slot ∈ a.view.slots, slot ∈ next.seen) := by
  intro s
  refine ⟨ordinal_bijOn (seen_nodup as), ?_, fun x hx y hy => ordinal_lt_iff hx hy, ?_, ?_⟩
  · intro more slot hslot later
    have hkept : slot ∈ later.seen := (seen_kept as more).subset hslot
    have hsame : later.ordinal slot = s.ordinal slot := by
      obtain ⟨new, hnew⟩ := seen_kept as more
      rw [ordinal, ordinal, ← hnew, List.idxOf_append_of_mem hslot]
    refine ⟨hkept, hsame, fun other hother heq => ?_⟩
    exact (ordinal_bijOn (seen_nodup (as ++ more))).injOn hother hkept (heq.trans hsame.symm)
  · intro slot hslot
    refine ⟨listedBy_le_recordedBy hslot, ?_⟩
    rintro before a more rfl hfirst hdone
    exact recordedBy_listed hfirst hdone
  · intro a next
    obtain ⟨before, hbefore, hseen, -⟩ := after_snoc as a
    exact ⟨⟨before, hbefore, hseen⟩, fun h slot hslot => mem_seen_of_carriesOut h hslot⟩

/-- The updates of a service with two replicas, whose tasks are pending. -/
private def trial (slots : List Nat) (refused : Option Nat) : Attempt :=
  ⟨⟨"web", ⟨"web", .ofReplicas 2, none⟩, none⟩,
    ⟨slots.map fun slot => ⟨"t", "web", "a", slot, .running, ⟨.pending, "", ""⟩⟩, ["a"], false⟩,
    refused⟩

/-- An update that is broken off at the line of slot 4 has recorded it, but not slot 6. Slot 4 goes
away and comes back, and keeps the first ordinal. -/
theorem slot_numbering_with_gaps :
    let as := [trial [4, 6] (some 3), trial [5, 6] none]
    (after as).seen = [4, 5, 6] ∧ (after (as ++ [trial [2, 4] none])).seen = [4, 5, 6, 2] ∧
      (after as).ordinal 4 = 1 ∧ (after (as ++ [trial [2, 4] none])).ordinal 4 = 1 ∧
      Precedes as 5 6 := by
  intro as
  obtain ⟨-, hstable, horder, -, -⟩ := slot_numbering as
  have hseen : (after as).seen = [4, 5, 6] := by decide +kernel
  obtain ⟨-, hsame, -⟩ := hstable [trial [2, 4] none] 4 (by simp [hseen])
  have hfirst : (after as).ordinal 4 = 1 := by decide +kernel
  refine ⟨hseen, by decide +kernel, hfirst, hsame.trans hfirst, ?_⟩
  exact (horder 5 (by simp [hseen]) 6 (by simp [hseen])).1 (by decide +kernel)

/-- A slot that is in the snapshot of a broken off update may get its ordinal behind one that is
first in a later snapshot. -/
theorem slot_overtaken :
    let as := [trial [5] (some 0), trial [3, 5] none]
    3 ∈ (after as).seen ∧ 5 ∈ (after as).seen ∧ listedBy as 5 < listedBy as 3 ∧
      (after as).ordinal 3 < (after as).ordinal 5 := by
  decide +kernel

end Update.Slots
end Rollout
