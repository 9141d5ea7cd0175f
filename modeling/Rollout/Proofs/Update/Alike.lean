import Mathlib.Data.List.Forall2
import Rollout.Proofs.Update.Replicated

/-!
What a rollback changes in an update: the overall line says it, and bars run backwards. The counts,
the verdict and the state behind the update are the same (`Updater.update?_alike`).
-/

namespace Rollout

/-- The words in front of the overall line during a rollback. -/
def rollingBack : String := "rolling back update: "

/-- Two events that differ in telling of a rollback at most: in the words of the overall line, or in
the direction of a bar, whose place stays on it. -/
inductive Event.Alike : Event → Event → Prop
  | same (e : Event) : Alike e e
  | gained (text : String) : Alike (.act overallId text) (.act overallId (rollingBack ++ text))
  | lost (text : String) : Alike (.act overallId (rollingBack ++ text)) (.act overallId text)
  | turned (id label : String) (c : Int) : 0 ≤ c → c ≤ TaskState.runningRank →
      Alike (.withBar id label c TaskState.runningRank)
        (.withBar id label (TaskState.runningRank - c) TaskState.runningRank)

theorem Event.Alike.id_eq {e e' : Event} (h : e.Alike e') : e.id = e'.id := by
  cases h <;> rfl

/-- Plans that end alike and show alike events. -/
structure Plan.Alike (p p' : Plan σ) : Prop where
  final : p.final = p'.final
  converged : p.converged = p'.converged
  tally : p.tally = p'.tally
  events : List.Forall₂ Event.Alike p.events p'.events

theorem Plan.Alike.map {p p' : Plan σ} (h : p.Alike p') (f : σ → τ) :
    (p.map f).Alike (p'.map f) where
  final := congrArg f h.final
  converged := h.converged
  tally := h.tally
  events := by simpa using h.events

theorem alike_refl (es : List Event) : List.Forall₂ Event.Alike es es :=
  List.forall₂_same.2 fun e _ => .same e

namespace Update

theorem overall_text (running units : Nat) (rollback : Bool) :
    overall running units rollback = .act overallId ((if rollback then rollingBack else "") ++
      (toString running ++ " out of " ++ toString units ++ " tasks")) := by
  simp only [overall, rollingBack, String.append_assoc]

theorem overall_alike (running units : Nat) (b b' : Bool) :
    (overall running units b).Alike (overall running units b') := by
  rw [overall_text, overall_text]
  cases b <;> cases b' <;> simp only [Bool.false_eq_true, if_false, if_true, String.empty_append]
  · exact .same _
  · exact .gained _
  · exact .lost _
  · exact .same _

/-- The bar of a task that is on its way stays in its range in both directions. -/
theorem bar_alike (id label : String) {state : TaskState} (hs : state.isTerminal = false)
    (b b' : Bool) :
    (Event.withBar id label (state.progress b) TaskState.runningRank).Alike
      (.withBar id label (state.progress b') TaskState.runningRank) := by
  have hrank : state.rank ≤ TaskState.runningRank := by
    simpa [TaskState.isTerminal] using hs
  have hback : (TaskState.runningRank : Int) - (TaskState.runningRank - state.rank) =
      state.rank := by
    omega
  cases b with
  | false =>
    cases b' with
    | false => exact .same _
    | true => exact .turned id label state.rank (by omega) (by omega)
  | true =>
    cases b' with
    | false =>
      have hturned := Event.Alike.turned id label (TaskState.runningRank - state.rank)
        (by omega) (by omega)
      rwa [hback] at hturned
    | true => exact .same _

theorem unitLine_alike (id : String) (task : Task) (b b' : Bool) :
    List.Forall₂ Event.Alike (unitLine id task b) (unitLine id task b') := by
  unfold unitLine
  split
  · exact alike_refl _
  · split
    · exact .nil
    · rename_i hlive
      have hobserved : task.observed.isTerminal = false := by
        rw [Bool.or_eq_true, not_or] at hlive
        simpa using hlive.2
      exact .cons (bar_alike _ _ hobserved b b') .nil

/-! ## Replicated services -/

namespace Slots

/-- Emissions that show alike events. -/
def ShowAlike (es es' : List (Emission Slots)) : Prop :=
  List.Forall₂ Event.Alike (es.map Emission.event) (es'.map Emission.event)

theorem ShowAlike.append {as as' bs bs' : List (Emission Slots)} (ha : ShowAlike as as')
    (hb : ShowAlike bs bs') : ShowAlike (as ++ bs) (as' ++ bs') := by
  rw [ShowAlike, List.map_append, List.map_append]
  exact List.rel_append ha hb

theorem showAlike_of_events {es es' : List Event} (h : List.Forall₂ Event.Alike es es')
    (s s' : Slots) : ShowAlike (es.map (⟨·, s⟩)) (es'.map (⟨·, s'⟩)) := by
  simpa [ShowAlike, Function.comp_def] using h

theorem start_alike (s : Slots) (replicas : Nat) (b b' : Bool) :
    ShowAlike (s.start replicas b).1 (s.start replicas b').1 ∧
      (s.start replicas b).2 = (s.start replicas b').2 := by
  unfold start
  split
  · exact ⟨.nil, rfl⟩
  · exact ⟨showAlike_of_events (.cons (overall_alike ..) (alike_refl _)) _ _, rfl⟩

theorem walk_alike (replicas : Nat) (b b' : Bool) (s : Slots) (units : List (Nat × Task)) :
    ShowAlike (walk replicas b s units).1 (walk replicas b' s units).1 ∧
      (walk replicas b s units).2 = (walk replicas b' s units).2 := by
  induction units generalizing s with
  | nil => exact ⟨.nil, rfl⟩
  | cons u units ih =>
    obtain ⟨hshow, hlast⟩ := ih (s.record u.1)
    refine ⟨ShowAlike.append (showAlike_of_events ?_ _ _) hshow, hlast⟩
    unfold unitEvents
    split
    · exact .nil
    · exact unitLine_alike ..

theorem close_alike (s : Slots) (running replicas : Nat) (b b' : Bool) :
    ShowAlike (s.close running replicas b).1 (s.close running replicas b').1 ∧
      (s.close running replicas b).2 = (s.close running replicas b').2 := by
  unfold close
  split
  · exact ⟨.nil, rfl⟩
  · exact ⟨.cons (overall_alike ..) .nil, rfl⟩

theorem awake_rollback (s : Slots) (replicas : Nat) (view : View) (b : Bool) :
    s.awake replicas { view with rollback := b } = s.awake replicas view := by
  rw [awake, awake, (s.start_alike replicas view.rollback b).2]

theorem walked_alike (s : Slots) (replicas : Nat) (view : View) (b : Bool) :
    ShowAlike (s.walked replicas view).1 (s.walked replicas { view with rollback := b }).1 ∧
      (s.walked replicas view).2 = (s.walked replicas { view with rollback := b }).2 := by
  rw [walked, walked, s.awake_rollback replicas view b]
  exact walk_alike ..

theorem update_alike (s : Slots) (replicas : Nat) (view : View) (b : Bool) :
    (s.update replicas view).Alike (s.update replicas { view with rollback := b }) := by
  obtain ⟨hwalked, hlast⟩ := s.walked_alike replicas view b
  have hclose := (s.walked replicas view).2.close_alike
    (countRunning (tasksBySlot view.tasks view.active)) replicas view.rollback b
  rw [update_eq, update_eq, ← hlast]
  exact ⟨hclose.2, rfl, rfl,
    ((s.start_alike replicas view.rollback b).1.append hwalked).append hclose.1⟩

end Slots

/-! ## Global services -/

namespace Nodes

theorem progress_alike (s : Nodes) (units : List (String × Task)) (b b' : Bool) :
    (s.progress b units).Alike (s.progress b' units) := by
  refine ⟨rfl, rfl, rfl, ?_⟩
  simp only [progress, Plan.events, List.map_map, Function.comp_def, List.map_id']
  refine List.rel_append ?_ ?_
  · refine List.rel_flatMap (List.forall₂_same.2 fun _ _ => rfl) ?_
    rintro u _ rfl
    unfold unitEvents
    split
    · exact .nil
    · exact unitLine_alike ..
  · split
    · exact .nil
    · exact .cons (overall_alike ..) .nil

theorem update_alike (s : Nodes) (view : View) (b : Bool) :
    (s.update view).Alike (s.update { view with rollback := b }) := by
  unfold update
  dsimp only
  split
  · exact progress_alike ..
  · split
    · exact ⟨rfl, rfl, rfl, alike_refl _⟩
    · have hrest := ({ s with started := true } : Nodes).progress_alike
        (tasksByNode view.tasks view.active) view.rollback b
      exact ⟨hrest.final, hrest.converged, hrest.tally, .cons (overall_alike ..) hrest.events⟩

end Nodes
end Update

/-- What a service tells of its update changes nothing in the update of an updater; a rollback
changes the way it is shown. -/
theorem Updater.update?_alike (u : Updater) (service : Service) (view : View) (b : Bool)
    (status : Option UpdateStatus) :
    Option.Rel Plan.Alike (u.update? service view)
      (u.update? { service with updateStatus := status } { view with rollback := b }) := by
  cases u with
  | replicated slots =>
    have hreplicas : ({ service with updateStatus := status } : Service).replicas =
        service.replicas := rfl
    simp only [update?, hreplicas]
    cases service.replicas with
    | none => exact .none
    | some n => exact .some ((slots.update_alike n view b).map _)
  | global nodes => exact .some ((nodes.update_alike view b).map _)

end Rollout
