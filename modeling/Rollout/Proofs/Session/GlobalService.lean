import Rollout.Proofs.Session.Acting
import Rollout.Proofs.Update.Global

/-!
When a global service counts as converged. All its nodes run, and there was a task on an active
node: in the snapshot at hand, or in an earlier one. So a service whose tasks or nodes all went
away counts as converged, too (`global_converged`).
-/

namespace Rollout

/-! ## Updates of a global service -/

/-- Does an update show a task on an active node? Its first event has to be taken. -/
def Attempt.sees (a : Attempt) : Bool :=
  !(tasksByNode a.view.tasks a.view.active).isEmpty && a.refused != some 0

theorem Shown.attempt_global {s : Shown} {nodes : Update.Nodes} (hs : s.updater = .global nodes)
    (a : Attempt) : ∃ nodes', (s.attempt a).updater = .global nodes' ∧
      nodes'.started = (nodes.started || a.sees) := by
  refine ⟨((nodes.update a.view).attempt a.refused).state, ?_, ?_⟩
  · have hp : s.updater.update? a.service a.view = some ((nodes.update a.view).map .global) := by
      rw [hs]
      rfl
    simp only [Shown.attempt, hp, Plan.state_attempt_map]
  · exact Update.Nodes.attempt_started ..

/-- An updater is started by the first update that shows a task. -/
theorem Shown.run_global {s : Shown} {nodes : Update.Nodes} (hs : s.updater = .global nodes)
    (as : List Attempt) : ∃ nodes', (s.run as).updater = .global nodes' ∧
      nodes'.started = (nodes.started || as.any Attempt.sees) := by
  induction as generalizing s nodes with
  | nil => exact ⟨nodes, hs, by simp⟩
  | cons a as ih =>
    obtain ⟨nodes₁, hs₁, hst₁⟩ := s.attempt_global hs a
    obtain ⟨nodes₂, hs₂, hst₂⟩ := ih hs₁
    exact ⟨nodes₂, hs₂, by rw [hst₂, hst₁, List.any_cons, Bool.or_assoc]⟩

theorem after_global_converged (as : List Attempt) {service : Service} {view : View}
    {p : Plan Updater}
    (hp : ((Updater.global .fresh).after as).updater.update? service view = some p) :
    p.converged = true ↔
      (∀ x ∈ tasksByNode view.tasks view.active, x.2.isRunning = true) ∧
        (tasksByNode view.tasks view.active ≠ [] ∨ ∃ a, a ∈ as ∧ a.sees = true) := by
  obtain ⟨nodes, hs, hstarted⟩ :=
    Shown.run_global (s := ⟨.global .fresh, []⟩) rfl as
  rw [Updater.after, hs] at hp
  cases hp
  rw [Plan.converged_map, Update.Nodes.update_converged, hstarted]
  simp [Update.Nodes.fresh]

namespace Session

/-! ## Sessions on a global service -/

/-- The nodes with a task that a tick sees, if it is answered. -/
def Frame.units? (frame : Frame) : Option (List (String × Task)) :=
  match frame.tasks.answer, frame.nodes.answer with
  | some (.ok tasks), some (.ok nodes) => some (tasksByNode tasks (activeNodes nodes))
  | _, _ => none

/-- Was there a task on an active node before tick `k`? -/
def SeenBefore (script : Script) (k : Nat) : Prop :=
  ∃ j units, j < k ∧ (script j).units? = some units ∧ units ≠ []

theorem seenBefore_succ {script : Script} {k : Nat} {units : List (String × Task)}
    (hu : (script k).units? = some units) :
    SeenBefore script (k + 1) ↔ SeenBefore script k ∨ units ≠ [] := by
  constructor
  · rintro ⟨j, seen, hj, hseen, hne⟩
    rcases Nat.lt_succ_iff_lt_or_eq.1 hj with hlt | rfl
    · exact .inl ⟨j, seen, hlt, hseen, hne⟩
    · rw [hu] at hseen
      cases hseen
      exact .inr hne
  · rintro (⟨j, seen, hj, hseen, hne⟩ | hne)
    · exact ⟨j, seen, by omega, hseen, hne⟩
    · exact ⟨k, units, by omega, hu, hne⟩

/-- Were all units running that tick `k` saw, and was there a task by then? -/
def ConvergedAt (script : Script) (k : Nat) : Prop :=
  ∃ units, (script k).units? = some units ∧ (∀ x ∈ units, x.2.isRunning = true) ∧
    (units ≠ [] ∨ SeenBefore script k)

/-- What a session on a global service remembers when tick `k` begins. -/
structure OnGlobal (script : Script) (k : Nat) (w : Watch) : Prop where
  updater : ∃ nodes : Update.Nodes, (nodes.started = true ↔ SeenBefore script k) ∧
    (w.updater = some (.global nodes) ∨ w.updater = none ∧ k = 0 ∧ nodes = .fresh)
  converged : w.isConverged = true → ∃ j, k = j + 1 ∧ ConvergedAt script j

theorem onGlobal_start (script : Script) (monitor : Nat) : OnGlobal script 0 (.start monitor) where
  updater := by
    refine ⟨.fresh, ⟨(fun h => by cases h), ?_⟩, .inr ⟨rfl, rfl, rfl⟩⟩
    rintro ⟨j, -, hj, -⟩
    omega
  converged h := by cases h

theorem OnGlobal.tick {script : Script} {k now : Nat} {w w' : Watch} {id : String}
    (hglobal : ∀ s, (script 0).service.answer = some (.ok s) →
      Updater.ofService? s = some (.global .fresh))
    (hw : OnGlobal script k w) (h : (w.tick id (script k) now).verdict = .goOn w') :
    OnGlobal script (k + 1) w' := by
  obtain ⟨-, service, tasks, nodes, u, b, plan, hs, ht, hn, hu, hp, hup, hc⟩ := Watch.tick_goOn h
  obtain ⟨mine, hstarted, hmine⟩ := hw.updater
  have hu' : u = .global mine := by
    rcases hmine with hmine | ⟨hmine, rfl, rfl⟩
    · rw [Watch.updaterFor?, hmine] at hu
      exact (Option.some.inj hu).symm
    · rw [Watch.updaterFor?, hmine, hglobal service hs] at hu
      exact (Option.some.inj hu).symm
  subst hu'
  cases hp
  have hunits : (script k).units? = some (tasksByNode tasks (activeNodes nodes)) := by
    rw [Frame.units?, ht, hn]
  refine ⟨⟨_, ?_, .inl hup⟩, fun hconv => ⟨k, rfl, _, hunits, ?_⟩⟩
  · rw [seenBefore_succ hunits, ← hstarted]
    exact Update.Nodes.update_final_started ..
  · rw [hc, Plan.converged_map, Update.Nodes.update_converged, hstarted] at hconv
    exact hconv

/-- When a global service counts as converged. An update converges when all nodes with a task run,
and such a node was seen in this update or in an earlier one. So where a session says that its
service converged, or succeeds without an interruption, all nodes run that had a task when it asked
for the nodes last; it may be that there was none any more. -/
theorem global_converged (as : List Attempt) (service : Service) (view : View) {p : Plan Updater}
    (hp : ((Updater.global .fresh).after as).updater.update? service view = some p)
    (o : Output σ) (new : σ) (options : Options) (moment : Option Moment) (id : String)
    (script : Script) (count : Nat)
    (hglobal : ∀ s, (script 0).service.answer = some (.ok s) →
      Updater.ofService? s = some (.global .fresh)) :
    (p.converged = true ↔
      (∀ x ∈ tasksByNode view.tasks view.active, x.2.isRunning = true) ∧
        (tasksByNode view.tasks view.active ≠ [] ∨ ∃ a, a ∈ as ∧ a.sees = true)) ∧
    let result := run o new options moment id script count
    (.noted (.converged id) ∈ result.2.journal ∨
        (result.1 = .done (.ok ()) ∧ result.2.interrupted = false)) →
      ∃ k, result.2.calls .nodes = k + 1 ∧ ConvergedAt script k := by
  refine ⟨after_global_converged as hp, ?_⟩
  intro result h
  let r := (Run.begin new moment).record (.noted (.watching id))
  have hbegin : r.calls .nodes = 0 ∧ .noted (.converged id) ∉ r.journal := by
    simp only [r, Run.begin]
    split <;> simp [Run.calls, Run.record, Run.interrupt, Entry.isAsked]
  have hend := ticks_settled (I := OnGlobal script) o options moment
    (fun k w now w' hw ht => hw.tick hglobal ht) count (onGlobal_start script options.monitor)
    hbegin.1 hbegin.2
  have hfinish := finish_settled o id
    (ticks o options moment id script count 0 (.start options.monitor) r)
  obtain ⟨n, w, hw, hc, hn⟩ := hend (hfinish.1 h)
  obtain ⟨k, rfl, hk⟩ := hw.converged hc
  exact ⟨k, (hfinish.2 .nodes).trans hn, hk⟩

/-- A service whose only task goes away once it has been seen: the update without a task converges,
and the session says that the service converged. -/
theorem global_converged_without_tasks :
    let service : Service := ⟨"web", ⟨"web", .onEveryNode, none⟩, none⟩
    let task : Task := ⟨"t", "web", "n", 0, .running, ⟨.running, "", ""⟩⟩
    let frame (tasks : List Task) : Frame :=
      ⟨.prompt service, .prompt tasks, .prompt [⟨"n", .ready⟩], 0⟩
    let script : Script := fun k => frame (if k = 0 then [task] else [])
    (∃ p, ((Updater.global .fresh).after [⟨service, ⟨[task], ["n"], false⟩, none⟩]).updater.update?
        service ⟨[], ["n"], false⟩ = some p ∧ p.converged = true) ∧
      (∀ s, (script 0).service.answer = some (.ok s) →
        Updater.ofService? s = some (.global .fresh)) ∧
      ∃ result, run Output.recording .empty ⟨200, 500⟩ none "web" script 8 = result ∧
        .noted (.converged "web") ∈ result.2.journal ∧
        ∃ k, result.2.calls .nodes = k + 1 ∧ ConvergedAt script k ∧
          (script k).units? = some [] := by
  intro service task frame script
  have hglobal : ∀ s, (script 0).service.answer = some (.ok s) →
      Updater.ofService? s = some (.global .fresh) := by
    intro s hs
    cases hs
    rfl
  have hnote : .noted (.converged "web") ∈
      (run Output.recording .empty ⟨200, 500⟩ none "web" script 8).2.journal := by
    decide +kernel
  have hcalls :
      (run Output.recording .empty ⟨200, 500⟩ none "web" script 8).2.calls .nodes = 3 := by
    decide +kernel
  have hunits : tasksByNode [] ["n"] = [] := rfl
  have hsees : (⟨service, ⟨[task], ["n"], false⟩, none⟩ : Attempt).sees = true := by decide +kernel
  obtain ⟨hupdate, hsession⟩ := global_converged [⟨service, ⟨[task], ["n"], false⟩, none⟩]
    service ⟨[], ["n"], false⟩ rfl Output.recording .empty ⟨200, 500⟩ none "web" script 8 hglobal
  refine ⟨⟨_, rfl, ?_⟩, hglobal, _, rfl, hnote, ?_⟩
  · refine hupdate.2 ⟨?_, .inr ⟨_, List.mem_singleton.2 rfl, hsees⟩⟩
    simp [hunits]
  · obtain ⟨k, hk, hconv⟩ := hsession (.inl hnote)
    have hk2 : k = 2 := by omega
    subst hk2
    exact ⟨2, hk, hconv, rfl⟩

end Session
end Rollout
