import Rollout.Proofs.Session.Account

/-!
What a session that succeeds has seen of a rollback. A rollback that was shown before the last read
of the service has been followed by an update that converged; one that is first shown by the last
read has not, and the session succeeds on the update before it (`run_rollback`).
-/

namespace Rollout.Session

/-- Does a service tell of a rollback, under way or completed? -/
def showsRollback (service : Service) : Bool :=
  match service.updateStatus with
  | some ⟨.rollbackStarted, _⟩ => true
  | some ⟨.rollbackCompleted, _⟩ => true
  | _ => false

def showsUpdating (service : Service) : Bool :=
  match service.updateStatus with
  | some ⟨.updating, _⟩ => true
  | _ => false

namespace History

/-- Tick `j` is the first to tell of a rollback since the service was last updating, or since the
start. -/
def FirstRollback (h : History) (j : Nat) : Prop :=
  showsRollback (h.service j) = true ∧ ∀ i, i < j → showsRollback (h.service i) = true →
    ∃ u, i < u ∧ u < j ∧ showsUpdating (h.service u) = true

variable {h : History} {n : Nat}

/-- An outcome that is no failure is due by the update status, or for a service that held. -/
theorem outcome?_status (hx : h.outcome? n = some .finished ∨ h.outcome? n = some .stable) :
    statusOutcome? (h.convergedBefore n) (h.service n).updateStatus = h.outcome? n ∨
      statusOutcome? (h.convergedBefore n) (h.service n).updateStatus = none ∧
        h.outcome? n = some .stable ∧ h.Held n := by
  unfold outcome? at hx ⊢
  split at hx
  · simp at hx
  · split at hx
    · rename_i x hs
      rw [if_neg (by assumption), hs]
      exact .inl rfl
    · rename_i hs
      rw [if_neg (by assumption), hs]
      split at hx
      · rename_i hheld
        exact .inr ⟨rfl, by simp [hheld], hheld⟩
      · split at hx <;> simp at hx

/-- Where a read of the service tells of a rollback and ends the session well, the rollback is
completed, or it has started and the service held until then. -/
theorem rollback_finishes (hs : showsRollback (h.service n) = true)
    (hc : h.convergedBefore n = true)
    (hx : h.outcome? n = some .finished ∨ h.outcome? n = some .stable) :
    ((h.service n).updateStatus.map UpdateStatus.state = some .rollbackCompleted ∧
        h.outcome? n = some .finished) ∨
      ((h.service n).updateStatus.map UpdateStatus.state = some .rollbackStarted ∧
        h.outcome? n = some .stable ∧ h.Held n) := by
  have hstatus := outcome?_status hx
  rw [hc] at hstatus
  unfold showsRollback at hs
  split at hs
  · rename_i message hservice
    rw [hservice] at hstatus ⊢
    rcases hstatus with hnone | ⟨-, hstable, hheld⟩
    · rw [← hnone] at hx
      simp [statusOutcome?] at hx
    · exact .inr ⟨rfl, hstable, hheld⟩
  · rename_i message hservice
    rw [hservice] at hstatus ⊢
    rcases hstatus with hfinished | ⟨hnone, -⟩
    · exact .inl ⟨rfl, hfinished.symm⟩
    · simp [statusOutcome?] at hnone
  · cases hs

end History

variable {o : Output σ} {new : σ} {options : Options} {m : Option Moment} {id : String}
  {script : Script} {count : Nat}

/-- A session that succeeds without an interruption has read the service once more than it made
updates, and the last update converged. So a rollback that was first shown before the last read is
followed by an update that converged, at its tick or later. A rollback that the last read is the
first to show is not: it is completed, and the session ends with it at once, or it has started while
the service was found stable. -/
theorem run_rollback (hok : (run o new options m id script count).1 = .done (.ok ()))
    (hi : (run o new options m id script count).2.interrupted = false) :
    let h := script.history options
    ∃ n, (run o new options m id script count).2.calls .service = n + 1 ∧
      (run o new options m id script count).2.calls .nodes = n ∧
      (∀ i, i < n → (h.scenes i).frame = script i) ∧
      (script n).service.answer = some (.ok (h.service n)) ∧ h.convergedBefore n = true ∧
      ∀ j, j ≤ n → h.FirstRollback j →
        ((∃ i, j ≤ i ∧ i < n ∧ h.converged i = true) ↔ j < n) ∧
        (j = n → ((h.service n).updateStatus.map UpdateStatus.state = some .rollbackCompleted ∧
            h.outcome? n = some .finished) ∨
          ((h.service n).updateStatus.map UpdateStatus.state = some .rollbackStarted ∧
            h.outcome? n = some .stable ∧ h.Held n)) := by
  intro h
  obtain ⟨n, hn⟩ := run_succeeds hok hi
  refine ⟨n, hn.reads, hn.snapshots, hn.answered, hn.read, hn.converged,
    fun j hj hfirst => ⟨?_, ?_⟩⟩
  · constructor
    · rintro ⟨i, hji, hin, -⟩
      omega
    · intro hjn
      obtain ⟨last, rfl⟩ : ∃ last, n = last + 1 := ⟨n - 1, by omega⟩
      exact ⟨last, by omega, by omega, hn.converged⟩
  · rintro rfl
    exact History.rollback_finishes hfirst.1 hn.converged hn.outcome

/-- A service with one task, at a tick that shows this status and state. -/
private def shown (status : Option UpdateStatus) (state : TaskState) : Frame :=
  ⟨.prompt ⟨"web", ⟨"web", .ofReplicas 1, none⟩, status⟩,
    .prompt [⟨"t", "web", "n", 1, .running, ⟨state, "", ""⟩⟩], .prompt [⟨"n", .ready⟩], 0⟩

/-- A rollback that starts while the task comes up, and is completed once it runs. -/
theorem run_rollback_then_converged :
    let script : Script := fun k =>
      match k with
      | 0 => shown (some ⟨.updating, ""⟩) .starting
      | 1 => shown (some ⟨.rollbackStarted, "why"⟩) .running
      | _ => shown (some ⟨.rollbackCompleted, "done"⟩) .running
    let h := script.history ⟨1, 9⟩
    let whole := run Output.recording .empty ⟨1, 9⟩ none "web" script 4
    whole.1 = .done (.ok ()) ∧ whole.2.interrupted = false ∧ whole.2.calls .service = 3 ∧
      h.FirstRollback 1 ∧ ∃ i, 1 ≤ i ∧ i < 2 ∧ h.converged i = true := by
  intro script h whole
  have hok : whole.1 = .done (.ok ()) := rfl
  have hi : whole.2.interrupted = false := rfl
  have hcalls : whole.2.calls .service = 3 := by decide +kernel
  have hfirst : h.FirstRollback 1 := by
    refine ⟨rfl, fun i hi hs => ?_⟩
    obtain rfl : i = 0 := by omega
    cases hs
  obtain ⟨n, hreads, -, -, -, -, hafter⟩ := run_rollback hok hi
  obtain rfl : n = 2 := Nat.succ.inj (hreads.symm.trans hcalls)
  exact ⟨hok, hi, hcalls, hfirst, (hafter 1 (by decide) hfirst).1.2 (by decide)⟩

/-- A rollback that is first shown once the service has converged, and completed by then. The
session succeeds, and has made no update since. -/
theorem rollback_without_update :
    let script : Script := fun k =>
      match k with
      | 0 => shown (some ⟨.updating, ""⟩) .running
      | _ => shown (some ⟨.rollbackCompleted, "done"⟩) .running
    let h := script.history ⟨1, 9⟩
    let whole := run Output.recording .empty ⟨1, 9⟩ none "web" script 4
    whole.1 = .done (.ok ()) ∧ whole.2.interrupted = false ∧ h.FirstRollback 1 ∧
      whole.2.calls .nodes = 1 ∧
      ¬ ∃ i, 1 ≤ i ∧ i < whole.2.calls .nodes ∧ h.converged i = true := by
  intro script h whole
  have hfirst : h.FirstRollback 1 := by
    refine ⟨rfl, fun i hi hs => ?_⟩
    obtain rfl : i = 0 := by omega
    cases hs
  have hnodes : whole.2.calls .nodes = 1 := by decide +kernel
  refine ⟨rfl, rfl, hfirst, hnodes, ?_⟩
  rintro ⟨i, hi, hlt, -⟩
  omega

end Rollout.Session
