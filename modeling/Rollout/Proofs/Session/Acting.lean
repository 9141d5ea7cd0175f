import Rollout.Proofs.Session.Tick

/-!
What carrying out actions does to a run, whatever becomes of them: its output may refuse events,
and it may be interrupted. A session that ends well without an interruption has come to a tick that
finishes (`ticks_settled`).
-/

namespace Rollout.Session

/-- A run that has carried out actions, or the first ones of them. -/
structure Acted (r : Run σ) (as : List Action) (r' : Run σ) : Prop where
  noted : ∀ n, .noted n ∈ r'.journal → .noted n ∈ r.journal ∨ .note n ∈ as
  atLeast : ∀ q, r.calls q ≤ r'.calls q
  atMost : ∀ q, r'.calls q ≤ r.calls q + as.countP (Action.isAsk q)
  interrupted : r.interrupted = true → r'.interrupted = true

namespace Acted

variable {r r' r'' : Run σ} {as bs : List Action}

theorem none (r : Run σ) : Acted r [] r := ⟨fun _ h => .inl h, by simp, by simp, id⟩

theorem append (h : Acted r as r') (h' : Acted r' bs r'') : Acted r (as ++ bs) r'' where
  noted n hn := by
    rw [List.mem_append]
    rcases h'.noted n hn with hn | hn
    · exact (h.noted n hn).imp_right .inl
    · exact .inr (.inr hn)
  atLeast q := Nat.le_trans (h.atLeast q) (h'.atLeast q)
  atMost q := by
    have h₁ := h.atMost q
    have h₂ := h'.atMost q
    rw [List.countP_append]
    omega
  interrupted hi := h'.interrupted (h.interrupted hi)

theorem weaken (h : Acted r as r') (bs : List Action) : Acted r (as ++ bs) r' where
  noted n hn := (h.noted n hn).imp_right (List.mem_append_left bs)
  atLeast := h.atLeast
  atMost q := by
    have h₁ := h.atMost q
    rw [List.countP_append]
    omega
  interrupted := h.interrupted

end Acted

theorem mark_noted_mem (r : Run σ) (m : Option Moment) (e : Entry) (n : Note) :
    .noted n ∈ (r.mark m e).journal ↔ .noted n = e ∨ .noted n ∈ r.journal := by
  unfold Run.mark
  dsimp only
  split <;> simp [Run.interrupt, Run.record]

theorem mark_calls (r : Run σ) (m : Option Moment) (e : Entry) (q : Query) :
    (r.mark m e).calls q = r.calls q + if e.isAsked q then 1 else 0 := by
  unfold Run.mark
  dsimp only
  split <;> simp [Run.calls, Run.interrupt, Run.record, List.countP_cons, Entry.isAsked]

theorem mark_interrupted {r : Run σ} {m : Option Moment} {e : Entry} (hi : r.interrupted = true) :
    (r.mark m e).interrupted = true := by
  unfold Run.mark
  dsimp only
  split
  · rfl
  · exact hi

/-- Waiting leaves at most the mark of an interruption. -/
private theorem wait_journal (o : Output σ) (r : Run σ) (m : Option Moment) (time : Option Nat) :
    let waited := r.wait o m time
    (waited.2.journal = r.journal ∧ waited.2.interrupted = r.interrupted ∧
        (waited.1 = .detach → r.interrupted = true)) ∨
      (waited.2.journal = .interrupted :: r.journal ∧ waited.2.interrupted = true) := by
  unfold Run.wait
  dsimp only
  split
  · rename_i hi
    exact .inl ⟨rfl, rfl, fun _ => hi⟩
  · split
    · split
      · exact .inr ⟨rfl, rfl⟩
      · exact .inl ⟨rfl, rfl, by simp⟩
    · exact .inr ⟨rfl, rfl⟩
    · exact .inl ⟨rfl, rfl, by simp⟩
    · exact .inl ⟨rfl, rfl, by simp⟩

private theorem wait_acted (o : Output σ) (r : Run σ) (m : Option Moment) (time : Option Nat) :
    Acted r [] (r.wait o m time).2 := by
  rcases wait_journal o r m time with ⟨hj, hi, -⟩ | ⟨hj, hi⟩
  · have hcalls : ∀ q, (r.wait o m time).2.calls q = r.calls q := by
      intro q
      rw [Run.calls, Run.calls, hj]
    exact ⟨fun n hn => .inl (hj ▸ hn), fun q => Nat.le_of_eq (hcalls q).symm,
      fun q => Nat.le_of_eq (hcalls q), fun h => hi.trans h⟩
  · have hcalls : ∀ q, (r.wait o m time).2.calls q = r.calls q := by
      intro q
      simp [Run.calls, hj, Entry.isAsked]
    exact ⟨fun n hn => .inl (by simpa [hj] using hn), fun q => Nat.le_of_eq (hcalls q).symm,
      fun q => Nat.le_of_eq (hcalls q), fun _ => hi⟩

private theorem wait_detach {o : Output σ} {r : Run σ} {m : Option Moment} {time : Option Nat}
    (h : (r.wait o m time).1 = .detach) : (r.wait o m time).2.interrupted = true := by
  rcases wait_journal o r m time with ⟨-, hi, hd⟩ | ⟨-, hi⟩
  · exact hi.trans (hd h)
  · exact hi

/-- A mark leaves its entry behind. -/
private theorem mark_acted (r : Run σ) (m : Option Moment) {e : Entry} {a : Action}
    (hn : ∀ n, .noted n = e → .note n = a)
    (hq : ∀ q, (if e.isAsked q then 1 else 0) = [a].countP (Action.isAsk q)) :
    Acted r [a] (r.mark m e) where
  noted n h := by
    rw [List.mem_singleton]
    exact ((mark_noted_mem r m e n).1 h).symm.imp_right (hn n)
  atLeast q := Nat.le.intro (mark_calls r m e q).symm
  atMost q := Nat.le_of_eq (by rw [mark_calls, hq])
  interrupted := mark_interrupted

theorem act_acted (o : Output σ) (m : Option Moment) (r : Run σ) (a : Action) :
    Acted r [a] (r.act o m a).2 := by
  cases a with
  | ask request => exact mark_acted r m (by simp) (by simp [Entry.isAsked, Action.isAsk])
  | wait time =>
    cases time with
    | zero => exact (Acted.none r).weaken _
    | succ time => exact (wait_acted o r m _).weaken [_]
  | stall => exact (wait_acted o r m _).weaken [_]
  | emit e =>
    have hmark : Acted r [.emit e] (r.mark m (.emitted r.now e)) :=
      mark_acted r m (by simp) (by simp [Entry.isAsked, Action.isAsk])
    unfold Run.act Run.emit
    dsimp only
    split <;> exact ⟨hmark.noted, hmark.atLeast, hmark.atMost, hmark.interrupted⟩
  | settle b =>
    exact ⟨fun n hn => .inl hn, fun q => Nat.le_refl _, fun q => Nat.le_add_right _ _, id⟩
  | note n =>
    refine ⟨fun n' hn => ?_, fun q => ?_, fun q => ?_, id⟩
    · simpa [Run.act, Run.record, or_comm] using hn
    · simp [Run.act, Run.record, Run.calls, Entry.isAsked]
    · simp [Run.act, Run.record, Run.calls, Entry.isAsked]

theorem act_detach {o : Output σ} {m : Option Moment} {r : Run σ} {a : Action}
    (h : (r.act o m a).1 = .detach) : (r.act o m a).2.interrupted = true := by
  cases a with
  | wait time =>
    cases time with
    | zero => cases h
    | succ time => exact wait_detach h
  | stall => exact wait_detach h
  | emit e =>
    unfold Run.act Run.emit at h
    dsimp only at h
    split at h <;> cases h
  | _ => cases h

theorem actAll_acted (o : Output σ) (m : Option Moment) (r : Run σ) (as : List Action) :
    Acted r as (r.actAll o m as).2 := by
  induction as generalizing r with
  | nil => exact .none r
  | cons a as ih =>
    have ha := act_acted o m r a
    unfold Run.actAll
    split
    · rename_i r' hact
      rw [hact] at ha
      exact ha.append (ih r')
    · exact ha.weaken as

theorem actAll_detach {o : Output σ} {m : Option Moment} {r : Run σ} {as : List Action}
    (h : (r.actAll o m as).1 = .detach) : (r.actAll o m as).2.interrupted = true := by
  induction as generalizing r with
  | nil => cases h
  | cons a as ih =>
    unfold Run.actAll at h ⊢
    split at h
    · exact ih h
    · exact act_detach h

/-- An action asks what it asks, whatever becomes of it. -/
theorem act_calls (o : Output σ) (m : Option Moment) (r : Run σ) (a : Action) (q : Query) :
    (r.act o m a).2.calls q = r.calls q + [a].countP (Action.isAsk q) := by
  have hacted := act_acted o m r a
  have hmost := hacted.atMost q
  have hleast := hacted.atLeast q
  cases a with
  | ask request =>
    refine (mark_calls ..).trans ?_
    simp [Entry.isAsked, Action.isAsk]
  | _ =>
    simp only [List.countP_singleton, Action.isAsk, Bool.false_eq_true, if_false] at hmost ⊢
    omega

theorem actAll_single (o : Output σ) (m : Option Moment) (r : Run σ) (a : Action) :
    r.actAll o m [a] = r.act o m a := by
  unfold Run.actAll
  split
  · rename_i hact
    exact hact.symm
  · rfl

/-- A run that goes on has sent all queries. -/
theorem actAll_calls {o : Output σ} {m : Option Moment} {r : Run σ} {as : List Action}
    (h : (r.actAll o m as).1 = .goOn) (q : Query) :
    (r.actAll o m as).2.calls q = r.calls q + as.countP (Action.isAsk q) := by
  induction as generalizing r with
  | nil => simp [Run.actAll]
  | cons a as ih =>
    have ha := act_calls o m r a q
    unfold Run.actAll at h ⊢
    split at h
    · rename_i r' hact
      rw [hact] at ha
      rw [ih h, ha, Nat.add_assoc, ← List.countP_append]
      rfl
    · rename_i hstop
      exact (hstop _ (Prod.ext h rfl)).elim

/-! ## How sessions end -/

theorem detach_acted (o : Output σ) (m : Option Moment) (id : String) (r : Run σ) :
    Acted r (detachActions id r.converged) (detach o m id r).2 := actAll_acted ..

/-- Has a session come to a good end of its own? It said that the service converged, or it
succeeded without an interruption. -/
def Settled (id : String) (e : Ending) (r : Run σ) : Prop :=
  .noted (.converged id) ∈ r.journal ∨ (e = .done (.ok ()) ∧ r.interrupted = false)

theorem detach_unsettled {o : Output σ} {m : Option Moment} {id : String} {r : Run σ}
    (hi : r.interrupted = true) (hr : .noted (.converged id) ∉ r.journal) :
    ¬ Settled id (detach o m id r).1 (detach o m id r).2 := by
  have hacted := detach_acted o m id r
  rintro (hn | ⟨-, hn⟩)
  · exact (hacted.noted _ hn).elim hr (asides_converged (detach_asides ..) id)
  · rw [hacted.interrupted hi] at hn
    cases hn

/-- A session that comes to a good end after some actions has carried them all out. -/
theorem afterActions_settled {o : Output σ} {m : Option Moment} {id : String} {as : List Action}
    {r : Run σ} {rest : Run σ → Ending × Run σ}
    (hr : .noted (.converged id) ∉ r.journal) (ha : .note (.converged id) ∉ as)
    (h : Settled id (afterActions o m id (r.actAll o m as) rest).1
      (afterActions o m id (r.actAll o m as) rest).2) :
    (r.actAll o m as).1 = .goOn ∧
      afterActions o m id (r.actAll o m as) rest = rest (r.actAll o m as).2 := by
  have hn : .noted (.converged id) ∉ (r.actAll o m as).2.journal := fun hn =>
    ((actAll_acted o m r as).noted _ hn).elim hr ha
  have hdetach : (r.actAll o m as).1 = .detach → (r.actAll o m as).2.interrupted = true :=
    actAll_detach
  generalize r.actAll o m as = acted at h hn hdetach ⊢
  obtain ⟨next, r'⟩ := acted
  cases next with
  | goOn => exact ⟨rfl, rfl⟩
  | detach => exact absurd h (detach_unsettled (hdetach rfl) hn)
  | refused e => exact (h.elim hn fun h => by cases h.1).elim
  | stuck => exact (h.elim hn fun h => by cases h.1).elim

/-- The nodes that were asked for after some actions that ask for none. -/
theorem afterActions_calls {o : Output σ} {m : Option Moment} {id : String} {as : List Action}
    {r : Run σ} {rest : Run σ → Ending × Run σ} (q : Query) (ha : as.countP (Action.isAsk q) = 0)
    (hrest : ∀ r, (rest r).2.calls q = r.calls q) :
    (afterActions o m id (r.actAll o m as) rest).2.calls q = r.calls q := by
  have hacted := actAll_acted o m r as
  have hsame : (r.actAll o m as).2.calls q = r.calls q := by
    have hleast := hacted.atLeast q
    have hmost := hacted.atMost q
    omega
  generalize r.actAll o m as = acted at hsame ⊢
  obtain ⟨next, r'⟩ := acted
  cases next with
  | goOn => exact (hrest r').trans hsame
  | detach =>
    have hdet := detach_acted o m id r'
    have hleast := hdet.atLeast q
    have hmost := hdet.atMost q
    rw [asides_ask (detach_asides ..)] at hmost
    exact (Nat.le_antisymm hmost hleast).trans hsame
  | refused e => exact hsame
  | stuck => exact hsame

/-- What holds of a session when a tick begins, and is kept by ticks that go on, holds when a
session comes to a good end of its own. Convergence was seen then, and no snapshot was asked for
since. -/
theorem ticks_settled {I : Nat → Watch → Prop} (o : Output σ) (options : Options)
    (m : Option Moment) {id : String} {script : Script}
    (step : ∀ k w now w', I k w → (w.tick id (script k) now).verdict = .goOn w' → I (k + 1) w')
    (count : Nat) {k : Nat} {w : Watch} {r : Run σ} (hw : I k w) (hk : r.calls .nodes = k)
    (hr : .noted (.converged id) ∉ r.journal) :
    let result := ticks o options m id script count k w r
    Settled id result.1 result.2 →
      ∃ n w', I n w' ∧ w'.isConverged = true ∧ result.2.calls .nodes = n := by
  induction count generalizing k w r with
  | zero => exact fun h => (h.elim hr fun h => by cases h.1).elim
  | succ count ih =>
    intro result h
    have hresult : result = ticks o options m id script (count + 1) k w r := rfl
    rw [ticks_succ] at hresult
    cases hi : r.interrupted with
    | true =>
      rw [if_pos hi] at hresult
      rw [hresult] at h
      exact absurd h (detach_unsettled hi hr)
    | false =>
      rw [if_neg (by simp [hi])] at hresult
      dsimp only at hresult
      by_cases hv : (w.tick id (script k) r.now).verdict = .finish
      · obtain ⟨hc, hnodes⟩ := Watch.tick_finish hv
        refine ⟨k, w, hw, hc, ?_⟩
        rw [hresult, hv]
        exact (afterActions_calls .nodes hnodes fun _ => rfl).trans hk
      · have hquiet := mt Watch.tick_converged hv
        rw [hresult] at h
        obtain ⟨hgo, hrest⟩ := afterActions_settled hr hquiet h
        rw [hrest] at h hresult
        have hacted := actAll_acted o m r (w.tick id (script k) r.now).actions
        have hn : .noted (.converged id) ∉
            (r.actAll o m (w.tick id (script k) r.now).actions).2.journal :=
          fun hn => (hacted.noted _ hn).elim hr hquiet
        cases hverdict : (w.tick id (script k) r.now).verdict with
        | finish => exact absurd hverdict hv
        | fail f =>
          rw [hverdict] at h
          exact (h.elim hn fun h => by cases h.1).elim
        | never =>
          rw [hverdict] at h
          exact (h.elim hn fun h => by cases h.1).elim
        | goOn w' =>
          rw [hverdict] at h hresult
          have hnodes : (r.actAll o m (w.tick id (script k) r.now).actions).2.calls .nodes =
              k + 1 := by
            rw [actAll_calls hgo, hk, (Watch.tick_goOn hverdict).1]
          dsimp only at h hresult
          rw [← actAll_single] at h hresult
          obtain ⟨hgo', hrest'⟩ := afterActions_settled hn (by simp) h
          rw [hrest'] at h hresult
          rw [hresult]
          refine ih (step k w r.now w' hw hverdict) ?_ ?_ h
          · rw [actAll_calls hgo', hnodes]
            rfl
          · exact fun hn' => ((actAll_acted ..).noted _ hn').elim hn (by simp)

/-- Closing an output neither brings a session to a good end nor asks anything. -/
theorem finish_settled (o : Output σ) (id : String) (u : Ending × Run σ) :
    (Settled id (finish o u).1 (finish o u).2 → Settled id u.1 u.2) ∧
      ∀ q, (finish o u).2.calls q = u.2.calls q := by
  obtain ⟨e, r⟩ := u
  cases e with
  | unfinished => exact ⟨fun h => h, fun _ => rfl⟩
  | done result =>
    refine ⟨fun h => h.imp_right fun ⟨hdone, hi⟩ => ⟨?_, hi⟩, fun _ => rfl⟩
    cases result with
    | ok => rfl
    | error f => cases hdone

end Rollout.Session
