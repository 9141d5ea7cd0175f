import Rollout.Proofs.Update.Ordinals
import Rollout.Proofs.Update.Verdict

/-!
Updates on a snapshot that has converged. They say so again and change nothing in the updater. They
show nothing if every unit was seen running; a unit too many that was not wakes the updater each
time, which then shows all lines again (`update_repeated`).
-/

namespace Rollout

namespace Update.Slots

variable {s : Slots} {replicas : Nat} {rollback : Bool} {units : List (Nat × Task)} {view : View}

/-- All slots of a snapshot are seen, and the latch is set if it holds or if all replicas run. -/
theorem update_final (s : Slots) (replicas : Nat) (view : View) :
    (∀ u ∈ tasksBySlot view.tasks view.active, u.1 ∈ (s.update replicas view).final.seen) ∧
      (s.update replicas view).final.settled =
        ((s.awake replicas view).settled || (s.update replicas view).converged) := by
  rw [update_eq]
  simp only [close_final, walked_settled, and_true]
  intro u hu
  rw [walked, walk_final]
  exact mem_recordAll.2 (.inl (List.mem_map_of_mem hu))

/-- An updater that is started and has seen the slots changes its latch at most. -/
theorem update_known (hs : s.started = true)
    (hseen : ∀ u ∈ tasksBySlot view.tasks view.active, u.1 ∈ s.seen) :
    (s.update replicas view).final =
      { s with settled := (s.awake replicas view).settled ||
        (s.update replicas view).converged } := by
  have hawake : s.awake replicas view = s.wake (tasksBySlot view.tasks view.active) := by
    simp only [awake, start, hs, if_true]
  have hwalked : (s.walked replicas view).2 = s.awake replicas view := by
    rw [hawake]
    unfold walked
    rw [hawake, walk_final]
    exact recordAll_known (List.forall_mem_map.2 hseen)
  rw [update_eq]
  simp only [close_final, hwalked]
  rw [hawake]
  rfl

end Update.Slots

namespace Update.Nodes

variable {s : Nodes} {view : View}

theorem progress_final (s : Nodes) (rollback : Bool) (units : List (String × Task)) :
    (s.progress rollback units).final = { s with settled :=
      (s.wake units).settled || (s.progress rollback units).converged } := rfl

/-- A verdict that all nodes run starts an updater and sets its latch. -/
theorem update_final (h : (s.update view).converged = true) :
    (s.update view).final = ⟨true, true⟩ := by
  rcases update_cases s view with ⟨-, -, hx⟩ | ⟨-, -, hx⟩ | ⟨hs, hx⟩
  · rw [hx] at h
    cases h
  · rw [hx] at h ⊢
    simp only at h ⊢
    rw [progress_final, h, Bool.or_true]
  · rw [hx] at h ⊢
    rw [progress_final, h, Bool.or_true, hs]

end Update.Nodes

namespace Updater

variable {u : Updater} {service : Service} {view : View} {p : Plan Updater}

theorem update?_settles (hp : u.update? service view = some p) (hconverged : p.converged = true) :
    p.final.started = true ∧ p.final.settled = true := by
  cases u with
  | replicated slots =>
    obtain ⟨n, -, rfl⟩ := Option.map_eq_some_iff.1 hp
    have hc : (slots.update n view).converged = true := hconverged
    have hsettled := (slots.update_final n view).2
    rw [hc, Bool.or_true] at hsettled
    exact ⟨slots.update_started n view, hsettled⟩
  | global nodes =>
    cases hp
    have hfinal : (nodes.update view).final = ⟨true, true⟩ := Update.Nodes.update_final hconverged
    simp only [Plan.map, hfinal]
    exact ⟨rfl, rfl⟩

/-- Updates on the same tasks and nodes leave a converged updater as it is. -/
theorem update?_again (hp : u.update? service view = some p) (hconverged : p.converged = true)
    (rollback : Bool) :
    ∃ q, p.final.update? service { view with rollback := rollback } = some q ∧
      q.final = p.final ∧ q.converged = true := by
  cases u with
  | replicated slots =>
    obtain ⟨n, hn, rfl⟩ := Option.map_eq_some_iff.1 hp
    obtain ⟨hseen, hsettled⟩ := slots.update_final n view
    have hc : (slots.update n view).converged = true := hconverged
    rw [hc, Bool.or_true] at hsettled
    have hagain :
        ((slots.update n view).final.update n { view with rollback := rollback }).converged =
          true := hc
    have hfinal : ((slots.update n view).final.update n { view with rollback := rollback }).final
        = _ := Update.Slots.update_known (slots.update_started n view) hseen
    rw [hagain, Bool.or_true, ← hsettled] at hfinal
    refine ⟨((slots.update n view).final.update n { view with rollback := rollback }).map
      replicated, ?_, congrArg replicated hfinal, hagain⟩
    simp only [Plan.map, update?, hn, Option.map_some]
  | global nodes =>
    cases hp
    have hc : (nodes.update view).converged = true := hconverged
    have hfinal : (nodes.update view).final = ⟨true, true⟩ := Update.Nodes.update_final hc
    have hall := ((Update.Nodes.update_converged nodes view).1 hc).1
    have hagain :
        ((⟨true, true⟩ : Update.Nodes).update { view with rollback := rollback }).converged =
          true := (Update.Nodes.update_converged _ _).2 ⟨hall, .inr rfl⟩
    refine ⟨_, rfl, ?_, ?_⟩
    · simp only [Plan.map, hfinal, Update.Nodes.update_final hagain]
    · simpa only [Plan.map, hfinal] using hagain

/-- A converged updater shows nothing of the same tasks if all units were seen running. -/
theorem update?_silent (hp : u.update? service view = some p) (hconverged : p.converged = true)
    {rollback : Bool} {q : Plan Updater}
    (hq : p.final.update? service { view with rollback := rollback } = some q) :
    q.events = [] ↔ ∀ t ∈ u.tasks view, t.observed = .running := by
  obtain ⟨hstarted, hsettled⟩ := update?_settles hp hconverged
  have htasks : p.final.tasks { view with rollback := rollback } = u.tasks view := by
    cases u with
    | replicated slots =>
      obtain ⟨n, -, rfl⟩ := Option.map_eq_some_iff.1 hp
      rfl
    | global nodes =>
      cases hp
      rfl
  have hquiet : p.final.isQuiet { view with rollback := rollback } = true ↔
      ∀ t ∈ u.tasks view, t.observed = .running := by
    simp [isQuiet, hsettled, htasks]
  rw [← hquiet]
  constructor
  · intro hnone
    by_contra hloud
    rw [Bool.not_eq_true] at hloud
    obtain ⟨target, ht⟩ := target?_of_update hq
    obtain ⟨⟨es, hes⟩, -⟩ := update?_loud ht hq hloud (update?_final_started hstarted hq)
    rw [hes] at hnone
    exact List.append_ne_nil_of_right_ne_nil es (List.cons_ne_nil _ _) hnone
  · exact fun hq' => (update?_quiet (fun _ => hstarted) hq hq').1

/-- By a verdict that says so as many units run as there should be. -/
theorem update?_running {target : Nat} (ht : u.target? service view = some target)
    (hp : u.update? service view = some p) (hconverged : p.converged = true) :
    u.running view = target := by
  cases u with
  | replicated slots =>
    obtain ⟨n, hn, rfl⟩ := Option.map_eq_some_iff.1 hp
    obtain rfl : n = target := Option.some.inj (hn.symm.trans ht)
    have hrunning := Update.countRunning_eq (tasksBySlot view.tasks view.active)
    exact hrunning.symm.trans (beq_iff_eq.1 hconverged)
  | global nodes =>
    cases hp
    cases ht
    have hall := ((Update.Nodes.update_converged nodes view).1 hconverged).1
    have hrunning := Update.countRunning_eq (tasksByNode view.tasks view.active)
    rw [running, tasks, ← hrunning, List.length_map]
    exact (Update.Nodes.countRunning_eq_length _).2 hall

/-- If there are no more units than there should be, all of them run. -/
theorem update?_all_running {target : Nat} (ht : u.target? service view = some target)
    (hle : (u.tasks view).length ≤ target) (hp : u.update? service view = some p)
    (hconverged : p.converged = true) : ∀ t ∈ u.tasks view, t.observed = .running := by
  have hrunning := update?_running ht hp hconverged
  rw [running] at hrunning
  have hcount : (u.tasks view).countP Task.isRunning = (u.tasks view).length :=
    Nat.le_antisymm List.countP_le_length (by omega)
  intro t hmem
  have ht := List.countP_eq_length.1 hcount t hmem
  exact beq_iff_eq.1 (Bool.and_eq_true_iff.1 ht).2

end Updater

/-- The same tasks and nodes over and over, with or without a rollback, and nothing is refused. -/
def Shown.again (s : Shown) (service : Service) (view : View) (rollbacks : List Bool) : Shown :=
  s.run (rollbacks.map fun b => ⟨service, { view with rollback := b }, none⟩)

/-- An updater that each of the updates leaves as it is shows the same again, or nothing. -/
theorem Shown.again_steady {u : Updater} {service : Service} {view : View} {quiet : Prop}
    (h : ∀ rollback, ∃ q, u.update? service { view with rollback := rollback } = some q ∧
      q.final = u ∧ (q.events = [] ↔ quiet)) (shown : List Event) (rollbacks : List Bool) :
    let after := Shown.again ⟨u, shown⟩ service view rollbacks
    after.updater = u ∧
      ∃ more, after.events = shown ++ more ∧ (more = [] ↔ rollbacks = [] ∨ quiet) := by
  induction rollbacks generalizing shown with
  | nil => exact ⟨rfl, [], (List.append_nil shown).symm, by simp⟩
  | cons rollback rollbacks ih =>
    obtain ⟨q, hq, hfinal, hnone⟩ := h rollback
    have hstep : (⟨u, shown⟩ : Shown).attempt ⟨service, { view with rollback := rollback }, none⟩ =
        ⟨u, shown ++ q.events⟩ := by
      simp only [Shown.attempt, hq, Plan.attempt, Option.bind_none, hfinal]
    have hrest : Shown.again ⟨u, shown⟩ service view (rollback :: rollbacks) =
        Shown.again ⟨u, shown ++ q.events⟩ service view rollbacks := by
      simp only [Shown.again, Shown.run, List.map_cons, List.foldl_cons, hstep]
    obtain ⟨hupdater, more, hevents, hmore⟩ := ih (shown ++ q.events)
    simp only [hrest]
    refine ⟨hupdater, q.events ++ more, by rw [hevents, List.append_assoc], ?_⟩
    rw [List.append_eq_nil_iff, hnone, hmore]
    simp only [reduceCtorEq, false_or]
    exact ⟨And.left, fun hquiet => ⟨hquiet, .inr hquiet⟩⟩

/-- An updater that has converged says so again on the same tasks and nodes, however often, and
stays as it is. It shows nothing more exactly if all units were seen running: so it does if there
are no more units than there should be, as is always the case for nodes. -/
theorem update_repeated {u : Updater} {service : Service} {view : View} {p : Plan Updater}
    (hp : u.update? service view = some p) (hconverged : p.converged = true) :
    (∀ rollback, ∃ q, p.final.update? service { view with rollback := rollback } = some q ∧
      q.final = p.final ∧ q.converged = true ∧
      (q.events = [] ↔ ∀ t ∈ u.tasks view, t.observed = .running)) ∧
    (∀ shown rollbacks,
      let after := Shown.again ⟨p.final, shown⟩ service view rollbacks
      after.updater = p.final ∧
        (after.events = shown ↔
          rollbacks = [] ∨ ∀ t ∈ u.tasks view, t.observed = .running)) ∧
    ∃ target, u.target? service view = some target ∧
      ((u.tasks view).length ≤ target → ∀ t ∈ u.tasks view, t.observed = .running) ∧
      (u.isReplicated = false → (u.tasks view).length = target) := by
  have honce : ∀ rollback, ∃ q,
      p.final.update? service { view with rollback := rollback } = some q ∧
        q.final = p.final ∧ q.converged = true ∧
        (q.events = [] ↔ ∀ t ∈ u.tasks view, t.observed = .running) := by
    intro rollback
    obtain ⟨q, hq, hfinal, hagain⟩ := Updater.update?_again hp hconverged rollback
    exact ⟨q, hq, hfinal, hagain, Updater.update?_silent hp hconverged hq⟩
  refine ⟨honce, ?_, ?_⟩
  · intro shown rollbacks
    have hsteady := Shown.again_steady (fun rollback => by
      obtain ⟨q, hq, hfinal, -, hnone⟩ := honce rollback
      exact ⟨q, hq, hfinal, hnone⟩) shown rollbacks
    obtain ⟨hupdater, more, hevents, hmore⟩ := hsteady
    refine ⟨hupdater, ?_⟩
    rw [hevents, ← hmore, List.append_right_eq_self]
  · obtain ⟨target, ht⟩ := Updater.target?_of_update hp
    refine ⟨target, ht, fun hle => Updater.update?_all_running ht hle hp hconverged, ?_⟩
    intro hglobal
    cases u with
    | replicated slots => cases hglobal
    | global nodes => exact Option.some.inj ht

/-- A task that is being shut down in a slot past the replica count wakes the updater of a service
that has converged, although nothing changes. -/
theorem update_repeated_with_spare_slot :
    let task (slot : Nat) (desired observed : TaskState) : Task :=
      ⟨"t", "web", "a", slot, desired, ⟨observed, "", ""⟩⟩
    let service : Service := ⟨"web", ⟨"web", .ofReplicas 2, none⟩, none⟩
    let view : View := ⟨[task 1 .running .running, task 2 .running .running,
      task 3 .shutdown .complete], ["a"], false⟩
    ∃ p q, (Updater.replicated .fresh).update? service view = some p ∧ p.converged = true ∧
      p.final.update? service view = some q ∧ q.final = p.final ∧ q.converged = true ∧
      q.events = [.withBar "1/2" "running  " 9 9, .withBar "2/2" "running  " 9 9,
        .act overallId "2 out of 2 tasks"] := by
  intro task service view
  have hp : (Updater.replicated .fresh).update? service view =
      some ((Update.Slots.fresh.update 2 view).map .replicated) := rfl
  have hconverged :
      ((Update.Slots.fresh.update 2 view).map Updater.replicated).converged = true := by
    decide +kernel
  obtain ⟨honce, -⟩ := update_repeated hp hconverged
  obtain ⟨q, hq, hfinal, hagain, -⟩ := honce false
  refine ⟨_, q, hp, hconverged, hq, hfinal, hagain, ?_⟩
  rw [← Option.some.inj hq]
  decide +kernel

end Rollout
