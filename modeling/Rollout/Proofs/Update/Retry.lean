import Rollout.Proofs.Update.Global
import Rollout.Proofs.Update.Ordinals

/-!
Updates that are tried again. Whatever an update that was broken off has done already, the next one
on the same snapshot takes up: it ends in the same state and with the same verdict as if nothing
had been refused, and shows the same but for start-up lines that are written (`update_retried`).
-/

namespace Rollout

namespace Update.Slots

variable {s : Slots} {replicas : Nat} {view : View}

/-- While the start-up lines are not all written, an update begins from the start. -/
theorem start_again {e : Emission Slots} (he : e ∈ (s.start replicas view.rollback).1) :
    e.held.started = s.started ∧ e.held.update replicas view = s.update replicas view := by
  unfold start at he
  split at he
  · cases he
  · rename_i hs
    obtain ⟨event, -, rfl⟩ := List.mem_map.1 he
    have hstart : ({ s with seen := [] } : Slots).start replicas view.rollback =
        s.start replicas view.rollback := (if_neg hs).trans (if_neg hs).symm
    exact ⟨rfl, by simp only [update, hstart]⟩

/-- With some of the slots recorded, an update goes through all of them again. -/
theorem update_resumed {before : List Nat} (hbefore : before <+: view.slots)
    (hloud : (s.awake replicas view).settled = false) :
    let held := (s.awake replicas view).recordAll before
    held.started = true ∧
      (held.update replicas view).final = (s.update replicas view).final ∧
      (held.update replicas view).converged = (s.update replicas view).converged ∧
      (s.update replicas view).events =
        (s.start replicas view.rollback).1.map Emission.event ++
          (held.update replicas view).events := by
  intro held
  obtain ⟨after, hafter⟩ := hbefore
  have hstarted : held.started = true := by
    rw [recordAll_started, awake, wake_started, start_started]
  have hsettled : held.settled = false := by rw [recordAll_settled, hloud]
  have hstart : held.start replicas view.rollback = ([], held) := if_pos hstarted
  have hawake : held.awake replicas view = held := by
    simp only [awake, hstart, wake, hsettled, Bool.false_and]
    rw [← hsettled]
  have hlast : held.recordAll view.slots = (s.awake replicas view).recordAll view.slots := by
    rw [← hafter]
    exact recordAll_again ..
  have hwalked : (held.walked replicas view).2 = (s.walked replicas view).2 := by
    rw [walked, walked, walk_final, walk_final, hawake]
    exact hlast
  have hlines : (held.walked replicas view).1.map Emission.event =
      (s.walked replicas view).1.map Emission.event := by
    rw [walked, walked, walk_events, walk_events, hawake]
    exact congrArg (fun last => (tasksBySlot view.tasks view.active).flatMap fun u =>
      unitEvents last replicas view.rollback u.1 u.2) hlast
  refine ⟨hstarted, ?_⟩
  simp only [update_eq, Plan.events, List.map_append, hstart, hwalked, hlines, List.nil_append,
    List.append_assoc, and_self]

/-- The state at an event is one from which the update begins anew, or goes through the slots. -/
theorem update_again {n : Nat} {e : Emission Slots}
    (he : (s.update replicas view).emissions[n]? = some e) :
    let lines := (s.start replicas view.rollback).1.map Emission.event
    (n < lines.length ∧ e.held.started = s.started ∧
      e.held.update replicas view = s.update replicas view) ∨
    (lines.length ≤ n ∧ e.held.started = true ∧
      (e.held.update replicas view).final = (s.update replicas view).final ∧
      (e.held.update replicas view).converged = (s.update replicas view).converged ∧
      (s.update replicas view).events = lines ++ (e.held.update replicas view).events) := by
  simp only [List.length_map]
  rcases update_held_cases he with ⟨hn, hstart⟩ | ⟨hn, before, hbefore, hheld, hloud⟩
  · exact .inl ⟨hn, start_again hstart⟩
  · rw [hheld]
    exact .inr ⟨hn, update_resumed hbefore hloud⟩

end Update.Slots

namespace Update.Nodes

variable {s : Nodes} {view : View} {rollback : Bool} {units : List (String × Task)}

/-- The lines of the nodes depend on what is remembered only through the latch. -/
theorem progress_again {e : Emission Nodes} (he : e ∈ (s.progress rollback units).emissions) :
    e.held.started = s.started ∧ e.held.progress rollback units = s.progress rollback units := by
  have hwake : (s.wake units).wake units = s.wake units := by
    simp only [wake, Bool.and_assoc, Bool.and_self]
  obtain ⟨event, -, rfl⟩ := List.mem_map.1 he
  exact ⟨rfl, by simp only [progress, hwake]⟩

/-- The state at an event is the one before, or one from which the lines of the nodes are shown
again. -/
theorem update_again {n : Nat} {e : Emission Nodes} (he : (s.update view).emissions[n]? = some e) :
    let units := tasksByNode view.tasks view.active
    (s.started = false ∧ n = 0 ∧ e.held = s) ∨
    (s.started = true ∧ e.held.started = true ∧ e.held.update view = s.update view) ∨
    (s.started = false ∧ units ≠ [] ∧ 0 < n ∧ e.held.started = true ∧
      (e.held.update view).final = (s.update view).final ∧
      (e.held.update view).converged = (s.update view).converged ∧
      (s.update view).events =
        overall 0 units.length view.rollback :: (e.held.update view).events) := by
  intro units
  rcases update_cases s view with ⟨hs, -, hx⟩ | ⟨hs, hu, hx⟩ | ⟨hs, hx⟩
  · rw [hx] at he
    obtain ⟨hn, rfl⟩ := List.getElem?_eq_some_iff.1 he
    obtain rfl : n = 0 := by simpa using hn
    exact .inl ⟨hs, rfl, rfl⟩
  · rw [hx] at he
    cases n with
    | zero =>
      cases he
      exact .inl ⟨hs, rfl, rfl⟩
    | succ n =>
      rw [List.getElem?_cons_succ] at he
      obtain ⟨hstarted, hagain⟩ := progress_again (List.mem_of_getElem? he)
      have hupdate : e.held.update view = e.held.progress view.rollback units := by
        rw [update, if_pos hstarted]
      refine .inr (.inr ⟨hs, hu, Nat.succ_pos n, hstarted, ?_⟩)
      rw [hupdate, hagain, hx]
      exact ⟨rfl, rfl, rfl⟩
  · rw [hx] at he
    obtain ⟨hstarted, hagain⟩ := progress_again (List.mem_of_getElem? he)
    refine .inr (.inl ⟨hs, hstarted.trans hs, ?_⟩)
    rw [update, if_pos (hstarted.trans hs), hagain, hx]

end Update.Nodes

/-! ## Attempts at one update -/

namespace Updater

variable {u u' : Updater} {service : Service} {view : View} {p : Plan Updater}

/-- The lines with which an updater starts: the overall line, and the empty lines of replicas. -/
def startLines (u : Updater) (service : Service) (view : View) : List Event :=
  if u.started then []
  else
    match u with
    | .replicated _ =>
      (service.replicas.map fun n => Update.Slots.startLines n view.rollback).getD []
    | .global _ =>
      if (u.tasks view).isEmpty then [] else [Update.overall 0 (u.tasks view).length view.rollback]

/-- Attempts at one update that each had an event refused, with what came of them. -/
inductive Fails (service : Service) (view : View) :
    Updater → List (Plan.Outcome Updater) → Updater → Prop
  | none (u : Updater) : Fails service view u [] u
  | again {u u' : Updater} {p : Plan Updater} {n : Nat} {xs : List (Plan.Outcome Updater)} :
      u.update? service view = some p → (p.attempt (some n)).converged = .none →
      Fails service view (p.attempt (some n)).state xs u' →
      Fails service view u (p.attempt (some n) :: xs) u'

theorem startLines_started (h : u.started = true) : u.startLines service view = [] := if_pos h

theorem startLines_congr (hkind : u.isReplicated = u'.isReplicated) (h : u.started = u'.started) :
    u.startLines service view = u'.startLines service view := by
  unfold startLines
  rw [h]
  cases u with
  | replicated slots =>
    cases u' with
    | replicated slots' => rfl
    | global nodes => cases hkind
  | global nodes =>
    cases u' with
    | replicated slots => cases hkind
    | global nodes' => rfl

theorem startLines_replicated (slots : Update.Slots) {n : Nat} (hn : service.replicas = some n) :
    (replicated slots).startLines service view =
      (slots.start n view.rollback).1.map Emission.event := by
  simp only [startLines, started, hn, Option.map_some, Option.getD_some, Update.Slots.start]
  split
  · rfl
  · rw [List.map_map]
    exact (List.map_id _).symm

/-- What an updater has left to do when an event was refused: all of it as long as start-up lines
are missing, else all but these lines. -/
theorem update?_refused {n : Nat} {e : Emission Updater} (hp : u.update? service view = some p)
    (he : p.emissions[n]? = some e) :
    let lines := u.startLines service view
    ∃ q, e.held.update? service view = some q ∧ q.final = p.final ∧ q.converged = p.converged ∧
      (n < lines.length ∧ e.held.startLines service view = lines ∧ q.events = p.events ∨
        lines.length ≤ n ∧ e.held.startLines service view = [] ∧ p.events = lines ++ q.events) := by
  intro lines
  cases u with
  | replicated slots =>
    obtain ⟨r, hr, rfl⟩ := Option.map_eq_some_iff.1 hp
    simp only [Plan.map, List.getElem?_map, Option.map_eq_some_iff] at he
    obtain ⟨e, he, rfl⟩ := he
    have hlines : lines = (slots.start r view.rollback).1.map Emission.event :=
      startLines_replicated slots hr
    refine ⟨(e.held.update r view).map .replicated, by rw [update?, hr]; rfl, ?_⟩
    rw [Plan.events_map, Plan.events_map, Plan.converged_map, Plan.converged_map, hlines]
    rcases Update.Slots.update_again he with ⟨hn, hstarted, hagain⟩ |
        ⟨hn, hstarted, hfinal, hconverged, hevents⟩
    · rw [hagain]
      refine ⟨rfl, rfl, .inl ⟨hn, ?_, rfl⟩⟩
      rw [← hlines]
      exact startLines_congr rfl hstarted
    · exact ⟨congrArg replicated hfinal, hconverged,
        .inr ⟨hn, startLines_started hstarted, hevents⟩⟩
  | global nodes =>
    cases hp
    simp only [Plan.map, List.getElem?_map, Option.map_eq_some_iff] at he
    obtain ⟨e, he, rfl⟩ := he
    refine ⟨(e.held.update view).map .global, rfl, ?_⟩
    rw [Plan.events_map, Plan.events_map, Plan.converged_map, Plan.converged_map]
    rcases Update.Nodes.update_again he with ⟨hs, rfl, hheld⟩ | ⟨hs, hstarted, hagain⟩ |
        ⟨hs, hu, hn, hstarted, hfinal, hconverged, hevents⟩
    · rw [hheld]
      refine ⟨rfl, rfl, ?_⟩
      cases hlines : lines with
      | nil => exact .inr ⟨Nat.le_refl 0, hlines, rfl⟩
      | cons line rest => exact .inl ⟨Nat.succ_pos _, hlines, rfl⟩
    · have hlines : lines = [] := startLines_started hs
      rw [hagain, hlines]
      exact ⟨rfl, rfl, .inr ⟨Nat.zero_le n, startLines_started hstarted, rfl⟩⟩
    · have hlines : lines =
          [Update.overall 0 (tasksByNode view.tasks view.active).length view.rollback] := by
        simp [lines, startLines, started, hs, tasks, hu]
      rw [hlines]
      exact ⟨congrArg global hfinal, hconverged, .inr ⟨hn, startLines_started hstarted, hevents⟩⟩

/-- An update shows the start-up lines first. -/
theorem startLines_first (hp : u.update? service view = some p) :
    u.startLines service view <+: p.events := by
  cases u with
  | replicated slots =>
    obtain ⟨n, hn, rfl⟩ := Option.map_eq_some_iff.1 hp
    rw [startLines_replicated slots hn, Plan.events_map, Update.Slots.update_eq]
    simp only [Plan.events, List.map_append, List.append_assoc]
    exact List.prefix_append _ _
  | global nodes =>
    cases hp
    rw [Plan.events_map]
    rcases Update.Nodes.update_cases nodes view with ⟨hs, hu, -⟩ | ⟨hs, hu, hx⟩ | ⟨hs, -⟩
    · simp [startLines, started, hs, tasks, hu]
    · rw [hx]
      simp [startLines, started, hs, tasks, hu, Plan.events]
    · have hnone : (global nodes).startLines service view = [] := startLines_started hs
      rw [hnone]
      exact List.nil_prefix

end Updater

/-- After attempts that each had an event refused, the update ends in the state and with the verdict
that it would have had at first. It shows what it would have shown, but for the start-up lines if
one of the attempts has shown them all. -/
theorem update_retried {u u' : Updater} {service : Service} {view : View} {p : Plan Updater}
    {xs : List (Plan.Outcome Updater)} (hp : u.update? service view = some p)
    (hxs : Updater.Fails service view u xs u') :
    let lines := u.startLines service view
    ∃ q rest, u'.update? service view = some q ∧ p.events = lines ++ rest ∧
      ∀ last, (q.attempt last).converged.isSome = true →
        q.attempt last = ⟨(if ∃ x ∈ xs, lines <+: x.taken then [] else lines) ++ rest, p.final,
          some p.converged⟩ := by
  intro lines
  suffices hplan : ∃ q rest, u'.update? service view = some q ∧ p.events = lines ++ rest ∧
      q.final = p.final ∧ q.converged = p.converged ∧
      q.events = (if ∃ x ∈ xs, lines <+: x.taken then [] else lines) ++ rest by
    obtain ⟨q, rest, hq, hrest, hfinal, hconverged, hevents⟩ := hplan
    refine ⟨q, rest, hq, hrest, fun last hlast => ?_⟩
    rcases q.attempt_cases last with hx | ⟨n, e, -, -, hx⟩
    · rw [hx, hfinal, hconverged, hevents]
    · rw [hx] at hlast
      cases hlast
  -- Each refusal leaves the same plan, or the same one without the start-up lines.
  induction hxs generalizing p with
  | none u =>
    obtain ⟨rest, hrest⟩ := Updater.startLines_first hp
    exact ⟨p, rest, hp, hrest.symm, rfl, rfl, by simpa using hrest.symm⟩
  | @again u u' r n xs hr hnone _ ih =>
    obtain rfl : p = r := Option.some.inj (hp.symm.trans hr)
    rcases p.attempt_cases (some n) with hx | ⟨n, e, hn, he, hx⟩
    · rw [hx] at hnone
      cases hnone
    cases hn
    obtain ⟨q, hq, hfinal, hconverged, hlines⟩ := Updater.update?_refused hp he
    rw [hx] at ih ⊢
    obtain ⟨q', rest, hq', hrest, hfinal', hconverged', hevents⟩ := ih hq
    simp only [List.exists_mem_cons_iff]
    rcases hlines with ⟨hshort, hsame, hshown⟩ | ⟨hlong, hnolines, hshown⟩
    · have hnot : ¬ lines <+: p.events.take n := by
        intro htaken
        have hle := htaken.length_le
        rw [List.length_take] at hle
        exact absurd hshort (Nat.not_lt.2 (hle.trans (Nat.min_le_left ..)))
      refine ⟨q', rest, hq', ?_, hfinal'.trans hfinal, hconverged'.trans hconverged, ?_⟩
      · rw [← hshown, hrest, hsame]
      · rw [hevents, hsame]
        simp only [hnot, false_or, lines]
    · have hall : lines <+: p.events.take n := by
        rw [hshown]
        exact List.prefix_take_iff.2 ⟨List.prefix_append _ _, hlong⟩
      refine ⟨q', rest, hq', ?_, hfinal'.trans hfinal, hconverged'.trans hconverged, ?_⟩
      · rw [hshown, hrest, hnolines, List.nil_append]
      · rw [hevents, hnolines]
        simp only [hall, true_or, if_true, ite_self]

/-- A service with two replicas, one of which is starting. The first attempt stops among the empty
lines, the second one at the line of the other slot, the third one at the overall line. -/
theorem update_retried_after_three :
    let task (slot : Nat) (observed : TaskState) : Task :=
      ⟨"t", "web", "a", slot, .running, ⟨observed, "", ""⟩⟩
    let service : Service := ⟨"web", ⟨"web", .ofReplicas 2, none⟩, none⟩
    let view : View := ⟨[task 7 .running, task 4 .starting], ["a"], false⟩
    ∃ xs u' q, Updater.Fails service view (.replicated .fresh) xs u' ∧
      xs.map (fun x => x.taken.length) = [2, 4, 2] ∧
      u'.update? service view = some q ∧
      q.attempt none = ⟨[.withBar "1/2" "starting " 8 9, .withBar "2/2" "running  " 9 9,
        .act overallId "1 out of 2 tasks"], .replicated ⟨[4, 7], true, false⟩, some false⟩ := by
  intro task service view
  let plan (s : Update.Slots) : Plan Updater := (s.update 2 view).map .replicated
  let begun : Update.Slots := ⟨[4, 7], true, false⟩
  have hplan : ∀ s, (Updater.replicated s).update? service view = some (plan s) := fun _ => rfl
  have h₁ : ((plan .fresh).attempt (some 2)).state = .replicated .fresh := by decide +kernel
  have h₂ : ((plan .fresh).attempt (some 4)).state = .replicated begun := by decide +kernel
  have h₃ : ((plan begun).attempt (some 2)).state = .replicated begun := by decide +kernel
  have hfails : Updater.Fails service view (.replicated .fresh)
      [(plan .fresh).attempt (some 2), (plan .fresh).attempt (some 4),
        (plan begun).attempt (some 2)] (.replicated begun) := by
    refine .again (hplan .fresh) (by decide +kernel) ?_
    rw [h₁]
    refine .again (hplan .fresh) (by decide +kernel) ?_
    rw [h₂]
    refine .again (hplan begun) (by decide +kernel) ?_
    rw [h₃]
    exact .none _
  obtain ⟨q, rest, hq, hrest, hlast⟩ := update_retried (hplan .fresh) hfails
  have hevents : (plan .fresh).events = (Updater.replicated .fresh).startLines service view ++
      [.withBar "1/2" "starting " 8 9, .withBar "2/2" "running  " 9 9,
        .act overallId "1 out of 2 tasks"] := by
    decide +kernel
  have hshown : (plan .fresh).final = .replicated begun ∧ (plan .fresh).converged = false := by
    decide +kernel
  refine ⟨_, _, q, hfails, by decide +kernel, hq, ?_⟩
  rw [hlast none rfl, if_pos (by decide +kernel), List.nil_append, hshown.1, hshown.2,
    List.append_cancel_left (hrest.symm.trans hevents)]

end Rollout
