import Rollout.Updater

/-!
Runs of an updater. It is asked for one update after another; an update may lack its replica count,
or have one of its events refused. What one attempt preserves, a run preserves (`Shown.run_ind`).
-/

namespace Rollout

/-- An update that is asked for, and how many of its events are taken before one is refused. -/
structure Attempt where
  service : Service
  view : View
  refused : Option Nat
  deriving Repr, DecidableEq

/-- An updater, and the events that were taken from it. -/
structure Shown where
  updater : Updater
  events : List Event
  deriving Repr, DecidableEq

def Shown.attempt (s : Shown) (a : Attempt) : Shown :=
  match s.updater.update? a.service a.view with
  | none => s
  | some plan =>
    let x := plan.attempt a.refused
    ⟨x.state, s.events ++ x.taken⟩

def Shown.run (s : Shown) (as : List Attempt) : Shown := as.foldl Shown.attempt s

/-- A new updater that was asked for some updates. -/
def Updater.after (u : Updater) (as : List Attempt) : Shown := Shown.run ⟨u, []⟩ as

theorem Updater.after_concat (u : Updater) (as : List Attempt) (a : Attempt) :
    u.after (as ++ [a]) = (u.after as).attempt a := by
  simp [Updater.after, Shown.run]

theorem Shown.run_ind {P : Shown → Prop} {s : Shown} (hs : P s)
    (step : ∀ s a, P s → P (s.attempt a)) (as : List Attempt) : P (s.run as) := by
  induction as generalizing s with
  | nil => exact hs
  | cons a as ih => exact ih (step s a hs)

@[simp] theorem Plan.events_map (f : σ → τ) (p : Plan σ) : (p.map f).events = p.events := by
  simp [Plan.events, Plan.map]

@[simp] theorem Plan.converged_map (f : σ → τ) (p : Plan σ) :
    (p.map f).converged = p.converged := rfl

theorem Plan.state_attempt_map (f : σ → τ) (p : Plan σ) (refused : Option Nat) :
    ((p.map f).attempt refused).state = f (p.attempt refused).state := by
  unfold Plan.attempt
  cases refused with
  | none => rfl
  | some n =>
    simp only [Option.bind_some, Plan.map, List.getElem?_map]
    cases p.emissions[n]? <;> rfl

theorem Plan.converged_attempt_map (f : σ → τ) (p : Plan σ) (refused : Option Nat) :
    ((p.map f).attempt refused).converged = (p.attempt refused).converged := by
  unfold Plan.attempt
  cases refused with
  | none => rfl
  | some n =>
    simp only [Option.bind_some, Plan.map, List.getElem?_map]
    cases p.emissions[n]? <;> rfl

/-- A plan is carried out whole, or up to an event that is refused. -/
theorem Plan.attempt_cases (p : Plan σ) (refused : Option Nat) :
    p.attempt refused = ⟨p.events, p.final, some p.converged⟩ ∨
      ∃ n e, refused = some n ∧ p.emissions[n]? = some e ∧
        p.attempt refused = ⟨p.events.take n, e.held, none⟩ := by
  unfold Plan.attempt
  cases refused with
  | none => exact .inl rfl
  | some n =>
    cases he : p.emissions[n]? with
    | none => exact .inl (by simp [he])
    | some e => exact .inr ⟨n, e, rfl, he, by simp [he]⟩

/-- An attempt leaves an updater as it was, carries its plan out, or breaks it off. -/
theorem Shown.attempt_cases (s : Shown) (a : Attempt) :
    (s.updater.update? a.service a.view = none ∧ s.attempt a = s) ∨
      ∃ p, s.updater.update? a.service a.view = some p ∧
        (s.attempt a = ⟨p.final, s.events ++ p.events⟩ ∨
          ∃ n e, a.refused = some n ∧ p.emissions[n]? = some e ∧
            s.attempt a = ⟨e.held, s.events ++ p.events.take n⟩) := by
  unfold Shown.attempt
  cases hp : s.updater.update? a.service a.view with
  | none => exact .inl ⟨rfl, rfl⟩
  | some p =>
    refine .inr ⟨p, rfl, ?_⟩
    rcases p.attempt_cases a.refused with hx | ⟨n, e, hn, he, hx⟩
    · exact .inl (by simp only [hx])
    · exact .inr ⟨n, e, hn, he, by simp only [hx]⟩

/-! ## What updaters have in common -/

namespace Updater

/-- Was the updater chosen for a replica count? -/
def isReplicated : Updater → Bool
  | .replicated _ => true
  | .global _ => false

/-- Is an attempt carried out to its end? -/
def carriesOut (u : Updater) (a : Attempt) : Bool :=
  ((u.update? a.service a.view).bind fun p => (p.attempt a.refused).converged).isSome

/-- Were the start-up lines written? -/
def started : Updater → Bool
  | .replicated slots => slots.started
  | .global nodes => nodes.started

/-- Was everything seen running, so that no lines are shown? -/
def settled : Updater → Bool
  | .replicated slots => slots.settled
  | .global nodes => nodes.settled

/-- The tasks that stand for the units. -/
def tasks (u : Updater) (view : View) : List Task :=
  match u with
  | .replicated _ => (tasksBySlot view.tasks view.active).map Prod.snd
  | .global _ => (tasksByNode view.tasks view.active).map Prod.snd

/-- How many of them run. -/
def running (u : Updater) (view : View) : Nat := (u.tasks view).countP Task.isRunning

/-- How many units there should be. -/
def target? (u : Updater) (service : Service) (view : View) : Option Nat :=
  match u with
  | .replicated _ => service.replicas
  | .global _ => some (u.tasks view).length

/-- Does an updater show nothing of a snapshot? It was settled, and all units were seen running. -/
def isQuiet (u : Updater) (view : View) : Bool :=
  u.settled && (u.tasks view).all fun t => t.observed == .running

end Updater

namespace Update

theorem countRunning_eq (units : List (κ × Task)) :
    countRunning units = (units.map Prod.snd).countP Task.isRunning := by
  rw [countRunning, List.countP_map, List.countP_eq_length_filter]
  rfl

theorem hasRegressed_eq (units : List (κ × Task)) :
    (!hasRegressed units) = (units.map Prod.snd).all fun t => t.observed == .running := by
  rw [hasRegressed, List.not_any_eq_all_not, List.all_map]
  simp [bne, Function.comp_def]

end Update
end Rollout
