import Mathlib.Data.List.Sort
import Rollout.Proofs.Reduction
import Rollout.Proofs.Update.Overall

/-!
What an update finds in a snapshot. Its verdict and the counts on its overall line depend on the
tasks that count and the nodes that are active, taken as sets; neither their order matters, nor
what a started updater remembers (`verdict_of_snapshot`). Which of several equally advanced tasks
stands for a unit does depend on their order, and so does the error that is shown.
-/

namespace Rollout

/-! ## The states of the units -/

theorem TaskState.rank_inj {s s' : TaskState} (hs : s.isRecognized = true)
    (hs' : s'.isRecognized = true) (h : s.rank = s'.rank) : s = s' := by
  obtain ⟨r, hr⟩ := Option.isSome_iff_exists.1 hs
  obtain ⟨r', hr'⟩ := Option.isSome_iff_exists.1 hs'
  obtain rfl : r = r' := by simpa [rank, hr, hr'] using h
  obtain ⟨i, rfl, hi⟩ := rank?_eq_some.1 hr
  obtain ⟨j, hij, hj⟩ := rank?_eq_some.1 hr'
  obtain rfl := Nat.succ.inj hij
  exact Option.some.inj (hi.symm.trans hj)

/-- Recognized tasks that none goes below the other are in the same states. -/
theorem Task.states_of_ranks {t t' : Task} (ht : t.isRecognized = true)
    (ht' : t'.isRecognized = true) (hle : t.ranks ≤ t'.ranks) (hge : t'.ranks ≤ t.ranks) :
    (t.desired, t.observed) = (t'.desired, t'.observed) := by
  have hranks := toLex.injective (le_antisymm hle hge)
  obtain ⟨hdesired, hobserved⟩ := Prod.mk.inj hranks
  obtain ⟨hd, ho⟩ := Bool.and_eq_true_iff.1 ht
  obtain ⟨hd', ho'⟩ := Bool.and_eq_true_iff.1 ht'
  rw [TaskState.rank_inj hd hd' hdesired, TaskState.rank_inj ho ho' hobserved]

/-- The key of a unit, and the desired and the observed state of its task. -/
def unitStates (u : κ × Task) : κ × TaskState × TaskState := (u.1, u.2.desired, u.2.observed)

section

variable {κ : Type} [LinearOrder κ] {counts counts' : κ → Task → Prop} {tasks tasks' : List Task}
  {units units' : List (κ × Task)}

private theorem Reduces.states_subset (h : Reduces counts tasks units)
    (h' : Reduces counts' tasks' units')
    (hsame : ∀ key t, t ∈ tasks ∧ counts key t ↔ t ∈ tasks' ∧ counts' key t)
    (hcounts : ∀ key t, counts key t → t.isRecognized = true) {x : κ × TaskState × TaskState}
    (hx : x ∈ units.map unitStates) : x ∈ units'.map unitStates := by
  obtain ⟨⟨key, t⟩, hu, rfl⟩ := List.mem_map.1 hx
  have ht := (h.kept key t).1 hu
  have hthere := (hsame key t).1 ⟨ht.mem, ht.holds⟩
  obtain ⟨⟨_, t'⟩, hu', rfl⟩ := List.mem_map.1 ((h'.keys key).2 ⟨t, hthere⟩)
  have ht' := (h'.kept _ t').1 hu'
  have hhere := (hsame _ t').2 ⟨ht'.mem, ht'.holds⟩
  -- Each of the two tasks is among those of which the other is the least.
  have hstates := Task.states_of_ranks (hcounts _ t ht.holds) (hcounts _ t' hhere.2)
    (ht.le hhere.1 hhere.2) (ht'.le hthere.1 hthere.2)
  refine List.mem_map.2 ⟨_, hu', ?_⟩
  simp only [unitStates, hstates]

/-- Snapshots with the same tasks that count have the same units, in the same states. -/
theorem Reduces.states_eq (h : Reduces counts tasks units) (h' : Reduces counts' tasks' units')
    (hsame : ∀ key t, t ∈ tasks ∧ counts key t ↔ t ∈ tasks' ∧ counts' key t)
    (hcounts : ∀ key t, counts key t → t.isRecognized = true)
    (hcounts' : ∀ key t, counts' key t → t.isRecognized = true) :
    units.map unitStates = units'.map unitStates := by
  let below (a b : κ × TaskState × TaskState) : Prop := a.1 < b.1
  have hascending : ∀ {units : List (κ × Task)}, (units.map Prod.fst).Pairwise (· < ·) →
      (units.map unitStates).Pairwise below := by
    intro units hkeys
    have hunits : units.Pairwise fun a b => a.1 < b.1 := List.pairwise_map.1 hkeys
    exact List.pairwise_map.2 hunits
  have : Std.Irrefl below := ⟨fun a => lt_irrefl a.1⟩
  have : Std.Antisymm below := ⟨fun a b hab hba => absurd hab (lt_asymm hba)⟩
  refine List.Pairwise.eq_of_mem_iff (hascending h.ascending) (hascending h'.ascending) ?_
  intro x
  exact ⟨h.states_subset h' hsame hcounts,
    h'.states_subset h (fun key t => (hsame key t).symm) hcounts'⟩

end

theorem mem_insertName {x id : String} {ids : List String} :
    id ∈ activeNodes.insertName x ids ↔ id = x ∨ id ∈ ids := by
  induction ids with
  | nil => simp [activeNodes.insertName]
  | cons y ids ih =>
    rw [activeNodes.insertName]
    split
    case isTrue => simp
    case isFalse =>
      split
      case isTrue hsame => simp [hsame]
      case isFalse => simp [ih, or_left_comm]

theorem mem_activeNodes {nodes : List Node} {id : String} :
    id ∈ activeNodes nodes ↔ ∃ n ∈ nodes, n.isActive = true ∧ n.id = id := by
  have hfold : ∀ ids : List String, id ∈ ids.foldr activeNodes.insertName [] ↔ id ∈ ids := by
    intro ids
    induction ids with
    | nil => rfl
    | cons x ids ih => rw [List.foldr_cons, mem_insertName, ih, List.mem_cons]
  simp only [activeNodes, hfold, List.mem_map, List.mem_filter, and_assoc]

/-! ## Verdicts and counts -/

namespace Updater

/-- Does a task count for the units of an updater? -/
def counts (u : Updater) (active : List String) (t : Task) : Bool :=
  match u with
  | .replicated _ => t.countsForSlot active
  | .global _ => t.countsForNode active

variable {u u' : Updater} {service : Service} {view view' : View} {p : Plan Updater}

/-- The desired and observed states of the units are those of any updater of the kind, for any
snapshot with the same tasks that count. -/
theorem states_of_counts (hkind : u.isReplicated = u'.isReplicated)
    (hactive : ∀ id, id ∈ view.active ↔ id ∈ view'.active)
    (htasks : ∀ t, u.counts view.active t = true → (t ∈ view.tasks ↔ t ∈ view'.tasks)) :
    (u.tasks view).map (fun t => (t.desired, t.observed)) =
      (u'.tasks view').map fun t => (t.desired, t.observed) := by
  have hcontains : view.active.contains = view'.active.contains := by
    funext id
    rw [Bool.eq_iff_iff, List.contains_iff_mem, List.contains_iff_mem, hactive]
  have hsnd : ∀ {κ : Type} (units : List (κ × Task)),
      (units.map Prod.snd).map (fun t => (t.desired, t.observed)) =
        (units.map unitStates).map Prod.snd := by
    intro κ units
    simp only [List.map_map]
    rfl
  cases u with
  | replicated slots =>
    cases u' with
    | global nodes => cases hkind
    | replicated slots' =>
      have hsame : ∀ t : Task, t.countsForSlot view'.active = t.countsForSlot view.active := by
        intro t
        rw [Task.countsForSlot, Task.countsForSlot, hcontains]
      have hstates := (tasksBySlot_reduces view.tasks view.active).states_eq
        (tasksBySlot_reduces view'.tasks view'.active)
        (fun slot t => by
          rw [hsame]
          exact and_congr_left fun h => htasks t h.1)
        (fun slot t h => (Bool.and_eq_true_iff.1 h.1).1)
        (fun slot t h => (Bool.and_eq_true_iff.1 h.1).1)
      simp only [tasks, hsnd, hstates]
  | global nodes =>
    cases u' with
    | replicated slots => cases hkind
    | global nodes' =>
      have hsame : ∀ t : Task, t.countsForNode view'.active = t.countsForNode view.active := by
        intro t
        rw [Task.countsForNode, Task.countsForNode, hcontains]
      have hstates := (tasksByNode_reduces view.tasks view.active).states_eq
        (tasksByNode_reduces view'.tasks view'.active)
        (fun node t => by
          rw [hsame]
          exact and_congr_left fun h => htasks t h.1)
        (fun node t h => (Bool.and_eq_true_iff.1 h.1).1)
        (fun node t h => (Bool.and_eq_true_iff.1 h.1).1)
      simp only [tasks, hsnd, hstates]

/-- The states of the units settle how many run, and how many there should be. -/
theorem counts_of_states (hkind : u.isReplicated = u'.isReplicated)
    (hstates : (u.tasks view).map (fun t => (t.desired, t.observed)) =
      (u'.tasks view').map fun t => (t.desired, t.observed)) :
    u.running view = u'.running view' ∧ u.target? service view = u'.target? service view' := by
  have hrunning : ∀ ts : List Task, ts.countP Task.isRunning =
      (ts.map fun t => (t.desired, t.observed)).countP
        fun s => !s.1.isTerminal && s.2 == .running := by
    intro ts
    rw [List.countP_map]
    rfl
  have hlength := congrArg List.length hstates
  rw [List.length_map, List.length_map] at hlength
  refine ⟨by rw [running, running, hrunning, hrunning, hstates], ?_⟩
  cases u with
  | replicated slots =>
    cases u' with
    | replicated slots' => rfl
    | global nodes => cases hkind
  | global nodes =>
    cases u' with
    | replicated slots => cases hkind
    | global nodes' => exact congrArg some hlength

/-- A started updater compares the units that run with those that there should be. -/
theorem update?_converged {target : Nat} (hstarted : u.started = true)
    (ht : u.target? service view = some target) (hp : u.update? service view = some p) :
    p.converged = (u.running view == target) := by
  cases u with
  | replicated slots =>
    obtain ⟨n, hn, rfl⟩ := Option.map_eq_some_iff.1 hp
    obtain rfl : n = target := Option.some.inj (hn.symm.trans ht)
    have hrunning := Update.countRunning_eq (tasksBySlot view.tasks view.active)
    rw [Plan.converged_map, Update.Slots.update_eq]
    exact congrArg (· == n) hrunning
  | global nodes =>
    cases hp
    cases ht
    have hs : nodes.started = true := hstarted
    have hrunning := Update.countRunning_eq (tasksByNode view.tasks view.active)
    rw [Plan.converged_map, Update.Nodes.update, if_pos hs, Update.Nodes.progress_converged,
      hrunning, running, tasks, List.length_map]

theorem update?_final_started (hstarted : u.started = true)
    (hp : u.update? service view = some p) : p.final.started = true := by
  cases u with
  | replicated slots =>
    obtain ⟨n, -, rfl⟩ := Option.map_eq_some_iff.1 hp
    exact Update.Slots.update_started ..
  | global nodes =>
    cases hp
    exact (Update.Nodes.update_final_started nodes view).2 (.inl hstarted)

/-- If a started updater shows anything, it closes with its counts. -/
theorem update?_closing {target : Nat} (hstarted : u.started = true)
    (ht : u.target? service view = some target) (hp : u.update? service view = some p) :
    ∀ line ∈ p.events.getLast?, line = Update.overall (u.running view) target view.rollback := by
  intro line hline
  cases hq : u.isQuiet view with
  | true =>
    rw [(update?_quiet (fun _ => hstarted) hp hq).1] at hline
    cases hline
  | false =>
    obtain ⟨⟨es, hes⟩, -⟩ := update?_loud ht hp hq (update?_final_started hstarted hp)
    rw [hes, List.getLast?_concat] at hline
    exact (Option.some.inj hline).symm

end Updater

/-- Started updaters of one kind give the same verdict on two snapshots with the same tasks that
count and the same nodes, in whatever order and however often they are listed, and their overall
lines show the same counts, those of the units of either snapshot. Neither what the updaters
remember nor a rollback matters. -/
theorem verdict_of_snapshot {u u' : Updater} (hkind : u.isReplicated = u'.isReplicated)
    (hu : u.started = true) (hu' : u'.started = true) {service : Service}
    (hreplicas : service.replicas.isSome = true) {tasks tasks' : List Task}
    {nodes nodes' : List Node} (hnodes : ∀ n, n ∈ nodes ↔ n ∈ nodes')
    (htasks : ∀ t, u.counts (activeNodes nodes) t = true → (t ∈ tasks ↔ t ∈ tasks'))
    (rollback rollback' : Bool) :
    let view : View := ⟨tasks, activeNodes nodes, rollback⟩
    let view' : View := ⟨tasks', activeNodes nodes', rollback'⟩
    ∃ p p' running target,
      u.update? service view = some p ∧ u'.update? service view' = some p' ∧
      (u.running view = running ∧ u'.running view' = running) ∧
      (u.target? service view = some target ∧ u'.target? service view' = some target) ∧
      p.converged = (running == target) ∧ p'.converged = (running == target) ∧
      (∀ line ∈ p.events.getLast?, line = Update.overall running target rollback) ∧
      ∀ line ∈ p'.events.getLast?, line = Update.overall running target rollback' := by
  intro view view'
  have hupdate : ∀ (u : Updater) (view : View), ∃ p, u.update? service view = some p := by
    obtain ⟨n, hn⟩ := Option.isSome_iff_exists.1 hreplicas
    intro u view
    cases u with
    | replicated slots => exact ⟨_, by rw [Updater.update?, hn]; rfl⟩
    | global nodes => exact ⟨_, rfl⟩
  obtain ⟨p, hp⟩ := hupdate u view
  obtain ⟨p', hp'⟩ := hupdate u' view'
  have hactive : ∀ id, id ∈ view.active ↔ id ∈ view'.active := by
    intro id
    simp only [view, view', mem_activeNodes, hnodes]
  have hcounts : u.running view = u'.running view' ∧
      u.target? service view = u'.target? service view' :=
    Updater.counts_of_states hkind (Updater.states_of_counts hkind hactive htasks)
  obtain ⟨hrunning, htarget⟩ := hcounts
  obtain ⟨target, ht⟩ := Updater.target?_of_update hp
  have ht' : u'.target? service view' = some target := htarget.symm.trans ht
  refine ⟨p, p', u.running view, target, hp, hp', ⟨rfl, hrunning.symm⟩, ⟨ht, ht'⟩,
    Updater.update?_converged hu ht hp, ?_, Updater.update?_closing hu ht hp, ?_⟩
  · rw [hrunning]
    exact Updater.update?_converged hu' ht' hp'
  · rw [hrunning]
    exact Updater.update?_closing hu' ht' hp'

/-- Two tasks of one slot failed alike. The one that is listed first is shown, so the errors on
display differ, and the verdicts do not. -/
theorem verdict_of_reordered_tasks :
    let task (node error : String) (slot : Nat) (state : TaskState) : Task :=
      ⟨"t", "web", node, slot, .running, ⟨state, "", error⟩⟩
    let service : Service := ⟨"web", ⟨"web", .ofReplicas 2, none⟩, none⟩
    let slow := task "a" "no such image" 1 .preparing
    let shut := task "a" "no space left" 1 .preparing
    let up := task "a" "" 2 .running
    let lost := task "b" "" 2 .new
    let view : View := ⟨[slow, shut, up], activeNodes [⟨"a", .ready⟩, ⟨"b", .down⟩], false⟩
    let view' : View :=
      ⟨[lost, up, shut, slow], activeNodes [⟨"b", .down⟩, ⟨"a", .ready⟩, ⟨"a", .ready⟩], true⟩
    ∃ p p',
      (Updater.replicated ⟨[1, 2], true, true⟩).update? service view = some p ∧
      (Updater.replicated ⟨[2, 1], true, false⟩).update? service view' = some p' ∧
      p.converged = p'.converged ∧
      p.events = [.act "1/2" "no such image",
        .withBar "2/2" "running  " 9 9, .act overallId "1 out of 2 tasks"] ∧
      p'.events = [.act "2/2" "no space left",
        .withBar "1/2" "running  " 0 9,
        .act overallId "rolling back update: 1 out of 2 tasks"] := by
  intro task service slow shut up lost view view'
  have hsame : ∀ t, Task.countsForSlot ["a"] t = true → (t ∈ view.tasks ↔ t ∈ view'.tasks) := by
    intro t ht
    have hlost : t ≠ lost := by
      rintro rfl
      revert ht
      decide
    simp only [view, view', List.mem_cons, List.not_mem_nil, hlost, false_or, or_false]
    tauto
  obtain ⟨p, p', running, target, hp, hp', -, -, hverdict, hverdict', -, -⟩ :=
    @verdict_of_snapshot (.replicated ⟨[1, 2], true, true⟩) (.replicated ⟨[2, 1], true, false⟩)
      rfl rfl rfl service rfl view.tasks view'.tasks [⟨"a", .ready⟩, ⟨"b", .down⟩]
      [⟨"b", .down⟩, ⟨"a", .ready⟩, ⟨"a", .ready⟩] (by simp [or_comm]) hsame false true
  refine ⟨p, p', hp, hp', hverdict.trans hverdict'.symm, ?_, ?_⟩
  · rw [← Option.some.inj hp]
    decide +kernel
  · rw [← Option.some.inj hp']
    decide +kernel

end Rollout
