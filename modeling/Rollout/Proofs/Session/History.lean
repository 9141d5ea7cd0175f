import Rollout.Proofs.Session.Course
import Rollout.Proofs.Update.Attempt
import Mathlib.Tactic.ByContra

/-!
The history of a session: the answers of the engine and the times that they take. It tells which
updater, window and stretch a session has at each tick, and which outcome is due there, without
anything that the session remembers.
-/

namespace Rollout

namespace Session

/-- An answer of the engine, and the time that it takes. -/
structure Answer (α : Type) where
  delay : Nat
  value : α

def Answer.reading (a : Answer α) : Reading α := ⟨a.delay, some (.ok a.value)⟩

/-- The answers of a tick in which no query fails. -/
structure Scene where
  service : Answer Service
  tasks : Answer (List Task)
  nodes : Answer (List Node)
  lag : Nat

def Scene.frame (s : Scene) : Frame :=
  ⟨s.service.reading, s.tasks.reading, s.nodes.reading, s.lag⟩

/-- Why a session is over: it failed, its update is over, or its service was stable. -/
inductive Outcome where
  | failed (f : Failure)
  | finished
  | stable
  deriving Repr, DecidableEq

def Outcome.result : Outcome → Except Failure Unit
  | .failed f => .error f
  | _ => .ok ()

/-- The outcome that is due with an update status, after an update that converged or not. -/
def statusOutcome? (converged : Bool) (status : Option UpdateStatus) : Option Outcome :=
  match status with
  | some ⟨.paused, message⟩ => some (.failed (.updatePaused message))
  | some ⟨.rollbackPaused, message⟩ => some (.failed (.rollbackPaused message))
  | some ⟨.rollbackCompleted, message⟩ =>
    some (if converged then .finished else .failed (.rolledBack message))
  | some ⟨.completed, _⟩ => if converged then some .finished else none
  | _ => none

/-- What a service says about a rollback. -/
def rollbackSign (service : Service) : Option Bool :=
  match service.updateStatus.map UpdateStatus.state with
  | some .updating => some false
  | some .rollbackStarted => some true
  | _ => none

/-- The window that a service sets: the monitor of its update configuration, unless that is zero. -/
def windowSet (service : Service) : Option Nat :=
  match service.spec.updateConfig with
  | some config => if config.monitor ≠ 0 then some config.monitor else none
  | none => none

theorem monitor_eq_windowSet (service : Service) : service.monitor = windowSet service := by
  obtain ⟨id, ⟨name, mode, config⟩, status⟩ := service
  cases config with
  | none => rfl
  | some config =>
    simp [Service.monitor, windowSet, Option.filter, Nat.pos_iff_ne_zero]

/-- The settings of a session, and what it meets at all ticks. -/
structure History where
  options : Options
  scenes : Nat → Scene

namespace History

def script (h : History) : Script := fun k => (h.scenes k).frame

def service (h : History) (k : Nat) : Service := (h.scenes k).service.value

/-- What the most recent service says, of those up to tick `k` that say something. -/
def latest (h : History) (f : Service → Option β) (k : Nat) : Option β :=
  (List.range (k + 1)).reverse.findSome? fun j => f (h.service j)

/-- The time that a converged service has to hold: the most recent window that was set, else that
of the session. -/
def window (h : History) (k : Nat) : Nat := (h.latest windowSet k).getD h.options.monitor

def isRollback (h : History) (k : Nat) : Bool := (h.latest rollbackSign k).getD false

def view (h : History) (k : Nat) : View :=
  ⟨(h.scenes k).tasks.value, activeNodes (h.scenes k).nodes.value, h.isRollback k⟩

/-- The updater after the updates of the ticks before `k`. -/
def updater? (h : History) : Nat → Option Updater
  | 0 => Updater.ofService? (h.service 0)
  | k + 1 => (h.updater? k).bind fun u => (u.update? (h.service k) (h.view k)).map Plan.final

def plan? (h : History) (k : Nat) : Option (Plan Updater) :=
  (h.updater? k).bind fun u => u.update? (h.service k) (h.view k)

/-- What the updater says at tick `k`. -/
def converged (h : History) (k : Nat) : Bool := (h.plan? k).any Plan.converged

/-- What the updater said last before tick `k`. -/
def convergedBefore (h : History) : Nat → Bool
  | 0 => false
  | k + 1 => h.converged k

def begins (h : History) : Nat → Nat
  | 0 => 0
  | k + 1 => h.begins k + (h.scenes k).service.delay + (h.scenes k).tasks.delay
      + (h.scenes k).nodes.delay + h.options.interval

/-- The instant after the service was read at tick `k`. -/
def read (h : History) (k : Nat) : Nat := h.begins k + (h.scenes k).service.delay

/-- The instant at which the update of tick `k` is done. -/
def updated (h : History) (k : Nat) : Nat :=
  h.read k + (h.scenes k).tasks.delay + (h.scenes k).nodes.delay

/-- The updates since tick `j` and before tick `k` converged, and the one before them did not. -/
def Stretch (h : History) (j k : Nat) : Prop :=
  h.convergedBefore j = false ∧ ∀ i, i < k → j ≤ i → h.converged i = true

instance (h : History) (j k : Nat) : Decidable (h.Stretch j k) :=
  inferInstanceAs (Decidable (_ ∧ _))

/-- The service has been converged at tick `k` for the time that it has to hold. -/
def Held (h : History) (k : Nat) : Prop :=
  ∃ j, j < k ∧ h.Stretch j k ∧ h.updated j + h.window k ≤ h.read k

instance (h : History) (k : Nat) : Decidable (h.Held k) :=
  inferInstanceAs (Decidable (∃ j, j < k ∧ _))

/-- The outcome that is due at tick `k`. -/
def outcome? (h : History) (k : Nat) : Option Outcome :=
  if k = 0 ∧ (h.service 0).replicas = none ∧ (h.service 0).spec.mode.isGlobal = false then
    some (.failed .unrecognizedMode)
  else
    match statusOutcome? (h.convergedBefore k) (h.service k).updateStatus with
    | some x => some x
    | none =>
      if h.Held k then some .stable
      else if (h.service 0).replicas ≠ none ∧ (h.service k).replicas = none then
        some (.failed .noReplicaCount)
      else none

/-! ## Windows, updaters and stretches from tick to tick -/

theorem latest_zero (h : History) (f : Service → Option β) : h.latest f 0 = f (h.service 0) := by
  simp [latest]

theorem latest_succ (h : History) (f : Service → Option β) (k : Nat) :
    h.latest f (k + 1) = (f (h.service (k + 1))).or (h.latest f k) := by
  rw [latest, List.range_succ, List.reverse_append, List.findSome?_append]
  simp [latest]

theorem getD_latest (h : History) (f : Service → Option β) (k : Nat) (b : β) :
    (f (h.service (k + 1))).getD ((h.latest f k).getD b) = (h.latest f (k + 1)).getD b := by
  rw [latest_succ]
  cases f (h.service (k + 1)) <;> rfl

theorem updater?_succ (h : History) (k : Nat) :
    h.updater? (k + 1) = (h.plan? k).map Plan.final := by
  rw [updater?, plan?]
  cases h.updater? k <;> rfl

theorem plan?_of_updater {h : History} {k : Nat} {u : Updater} (hu : h.updater? k = some u) :
    h.plan? k = u.update? (h.service k) (h.view k) := by
  rw [plan?, hu]
  rfl

/-- The kind of an updater never changes. -/
theorem update?_isReplicated {u : Updater} {service : Service} {view : View} {p : Plan Updater}
    (hp : u.update? service view = some p) : p.final.isReplicated = u.isReplicated := by
  cases u with
  | replicated slots =>
    obtain ⟨n, -, rfl⟩ := Option.map_eq_some_iff.1 hp
    rfl
  | global nodes =>
    cases hp
    rfl

theorem updater?_isReplicated {h : History} {k : Nat} {u : Updater}
    (hu : h.updater? k = some u) : u.isReplicated = (h.service 0).replicas.isSome := by
  induction k generalizing u with
  | zero =>
    rw [updater?, Updater.ofService?] at hu
    split at hu
    · rename_i hr
      cases hu
      exact hr.symm
    · rename_i hr
      split at hu
      · cases hu
        exact (Bool.eq_false_iff.2 hr).symm
      · cases hu
  | succ k ih =>
    rw [updater?_succ] at hu
    obtain ⟨p, hp, rfl⟩ := Option.map_eq_some_iff.1 hu
    cases hk : h.updater? k with
    | none => rw [plan?, hk] at hp; cases hp
    | some u =>
      rw [plan?_of_updater hk] at hp
      rw [update?_isReplicated hp, ih hk]

/-- A tick has no plan exactly when a replicated service has lost its replica count. -/
theorem plan?_eq_none {h : History} {k : Nat} {u : Updater} (hu : h.updater? k = some u) :
    h.plan? k = none ↔ (h.service 0).replicas ≠ none ∧ (h.service k).replicas = none := by
  have hr := updater?_isReplicated hu
  rw [plan?_of_updater hu]
  cases u with
  | replicated slots =>
    have hs : (h.service 0).replicas ≠ none := by
      intro hn
      rw [hn] at hr
      cases hr
    simp [Updater.update?, hs]
  | global nodes =>
    have hs : (h.service 0).replicas = none := by
      simpa [Updater.isReplicated] using hr.symm
    simp [Updater.update?, hs]

theorem updated_le_begins (h : History) {j k : Nat} (hjk : j < k) : h.updated j ≤ h.begins k := by
  induction k with
  | zero => omega
  | succ k ih =>
    have hk : h.begins (k + 1) = h.updated k + h.options.interval := by
      simp only [begins, updated, read]
    have hb : h.begins k ≤ h.updated k := by
      simp only [updated, read]
      omega
    rcases Nat.lt_succ_iff_lt_or_eq.1 hjk with hlt | rfl
    · have := ih hlt
      omega
    · omega

theorem Stretch.snoc {h : History} {j k : Nat} (hs : h.Stretch j k) (hc : h.converged k = true) :
    h.Stretch j (k + 1) := by
  refine ⟨hs.1, fun i hi hj => ?_⟩
  rcases Nat.lt_succ_iff_lt_or_eq.1 hi with hlt | rfl
  · exact hs.2 i hlt hj
  · exact hc

theorem Stretch.single {h : History} {k : Nat} (hb : h.convergedBefore k = false)
    (hc : h.converged k = true) : h.Stretch k (k + 1) := by
  refine ⟨hb, fun i hi hk => ?_⟩
  rwa [show i = k by omega]

theorem Stretch.convergedBefore {h : History} {j k : Nat} (hjk : j < k) (hs : h.Stretch j k) :
    h.convergedBefore k = true := by
  cases k with
  | zero => omega
  | succ k => exact hs.2 k (by omega) (by omega)

/-- There is one stretch before a tick. -/
theorem Stretch.le {h : History} {i j k : Nat} (hi : h.Stretch i k) (hj : h.Stretch j k)
    (hjk : j < k) : j ≤ i := by
  by_contra hlt
  have hc := Stretch.convergedBefore (j := i) (k := j) (by omega)
    ⟨hi.1, fun n hn hin => hi.2 n (by omega) hin⟩
  rw [hj.1] at hc
  cases hc

end History

end Session
end Rollout
