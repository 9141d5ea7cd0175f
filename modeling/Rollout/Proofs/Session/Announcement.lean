import Rollout.Proofs.Session.Opening
import Rollout.Proofs.Session.Rollback

/-!
The announcements of rollbacks. A rollback is announced by the first tick that tells of it since the
update last went on, unless it says nothing about it (`History.Announces`); and it is under way for
the updates from the tick that tells of it up to the next one that goes on with the update
(`History.UnderWay`). A session announces a rollback right behind the read of the service, and
nowhere else (`run_announcements`).
-/

namespace Rollout.Session

/-! ## Rollbacks in a history -/

/-- Does a service tell that a rollback has started? -/
def startsRollback (service : Service) : Bool :=
  match service.updateStatus with
  | some ⟨.rollbackStarted, _⟩ => true
  | _ => false

theorem rollbackSign_eq (service : Service) : rollbackSign service =
    if startsRollback service then some true
    else if showsUpdating service then some false else none := by
  unfold rollbackSign startsRollback showsUpdating
  cases service.updateStatus with
  | none => rfl
  | some status =>
    obtain ⟨state, message⟩ := status
    cases state <;> rfl

theorem showsUpdating_of_starts {service : Service} (hs : startsRollback service = true) :
    showsUpdating service = false := by
  unfold startsRollback at hs
  split at hs
  · rename_i message hstatus
    rw [showsUpdating, hstatus]
  · cases hs

namespace History

/-- A rollback started at tick `j`, and the update has not gone on since, up to tick `k`. -/
def UnderWay (h : History) (j k : Nat) : Prop :=
  startsRollback (h.service j) = true ∧ ∀ i, j < i → i ≤ k → showsUpdating (h.service i) = false

/-- Tick `k` is the first to tell, with this message, of a rollback that has started since the
update last went on. -/
def Announces (h : History) (k : Nat) (message : String) : Prop :=
  (h.service k).updateStatus = some ⟨.rollbackStarted, message⟩ ∧ message ≠ "" ∧
    ¬ ∃ j, j < k ∧ h.UnderWay j k

variable {h : History} {j k : Nat}

theorem UnderWay.self (hs : startsRollback (h.service k) = true) : h.UnderWay k k :=
  ⟨hs, fun i hki hik => by omega⟩

theorem underWay_succ (hjk : j ≤ k) : h.UnderWay j (k + 1) ↔
    h.UnderWay j k ∧ showsUpdating (h.service (k + 1)) = false := by
  constructor
  · rintro ⟨hs, hnot⟩
    exact ⟨⟨hs, fun i hji hik => hnot i hji (by omega)⟩, hnot (k + 1) (by omega) le_rfl⟩
  · rintro ⟨⟨hs, hnot⟩, hlast⟩
    refine ⟨hs, fun i hji hik => ?_⟩
    rcases Nat.lt_succ_iff_lt_or_eq.1 (Nat.lt_succ_of_le hik) with hlt | rfl
    · exact hnot i hji (by omega)
    · exact hlast

/-- A rollback is under way for the updates of a tick exactly if the latest service up to it that
tells of a start or of an update that goes on tells of a start. -/
theorem isRollback_iff : h.isRollback k = true ↔ ∃ j, j ≤ k ∧ h.UnderWay j k := by
  induction k with
  | zero =>
    rw [isRollback, latest_zero, rollbackSign_eq]
    constructor
    · intro hs
      split at hs
      · exact ⟨0, le_rfl, .self ‹_›⟩
      · split at hs <;> cases hs
    · rintro ⟨j, hj, hs, -⟩
      obtain rfl : j = 0 := by omega
      rw [if_pos hs]
      rfl
  | succ k ih =>
    have hstep : h.isRollback (k + 1) =
        (rollbackSign (h.service (k + 1))).getD (h.isRollback k) :=
      (h.getD_latest rollbackSign k false).symm
    rw [hstep, rollbackSign_eq]
    cases hs : startsRollback (h.service (k + 1)) with
    | true => simpa using ⟨k + 1, le_rfl, UnderWay.self hs⟩
    | false =>
      have hbefore : (∃ j, j ≤ k + 1 ∧ h.UnderWay j (k + 1)) ↔
          (∃ j, j ≤ k ∧ h.UnderWay j k) ∧ showsUpdating (h.service (k + 1)) = false := by
        constructor
        · rintro ⟨j, hj, hway⟩
          have hne : j ≠ k + 1 := by
            rintro rfl
            rw [hway.1] at hs
            cases hs
          rw [underWay_succ (by omega)] at hway
          exact ⟨⟨j, by omega, hway.1⟩, hway.2⟩
        · rintro ⟨⟨j, hj, hway⟩, hu⟩
          exact ⟨j, by omega, (underWay_succ hj).2 ⟨hway, hu⟩⟩
      rw [hbefore, ← ih]
      cases hu : showsUpdating (h.service (k + 1)) <;> simp

theorem rollbackBefore_iff (hs : startsRollback (h.service k) = true) :
    h.rollbackBefore k = true ↔ ∃ j, j < k ∧ h.UnderWay j k := by
  cases k with
  | zero => simp [rollbackBefore]
  | succ k =>
    rw [rollbackBefore, isRollback_iff]
    refine exists_congr fun j => ?_
    rw [Nat.lt_succ_iff]
    refine and_congr_right fun hj => ?_
    rw [underWay_succ hj, showsUpdating_of_starts hs]
    simp

/-- The notice of a rollback is due exactly where the rollback is announced. -/
theorem mem_rollbackNotice {e : Event} : e ∈ h.rollbackNotice k ↔
    ∃ message, e = .act rollbackId message ∧ h.Announces k message := by
  constructor
  · intro he
    unfold rollbackNotice Session.rollbackNotice at he
    split at he
    · rename_i message hstatus
      have hs : startsRollback (h.service k) = true := by rw [startsRollback, hstatus]
      split at he
      · rename_i hdue
        rw [Bool.and_eq_true, Bool.not_eq_true', bne_iff_ne] at hdue
        refine ⟨message, List.mem_singleton.1 he, hstatus, hdue.2, ?_⟩
        rw [← rollbackBefore_iff hs, hdue.1]
        simp
      · cases he
    · cases he
  · rintro ⟨message, rfl, hstatus, hmessage, hfirst⟩
    have hs : startsRollback (h.service k) = true := by rw [startsRollback, hstatus]
    rw [← rollbackBefore_iff hs, Bool.not_eq_true] at hfirst
    unfold rollbackNotice Session.rollbackNotice
    rw [hstatus, hfirst]
    simp [hmessage]

theorem length_rollbackNotice (h : History) (k : Nat) : (h.rollbackNotice k).length ≤ 1 := by
  unfold rollbackNotice Session.rollbackNotice
  repeat' split
  all_goals simp

/-- Between two announcements the update has gone on. -/
theorem Announces.separated {message message' : String} (hj : h.Announces j message)
    (hk : h.Announces k message') (hjk : j < k) :
    ∃ i, j < i ∧ i < k ∧ showsUpdating (h.service i) = true := by
  obtain ⟨hstatus, -, hfirst⟩ := hk
  by_contra hnot
  refine hfirst ⟨j, hjk, by rw [startsRollback, hj.1], fun i hji hik => ?_⟩
  rcases Nat.lt_or_eq_of_le hik with hlt | rfl
  · exact Bool.eq_false_iff.2 fun hu => hnot ⟨i, hji, hlt, hu⟩
  · rw [showsUpdating, hstatus]

end History

/-! ## Ticks that a session stops in -/

/-- The actions of a tick that a session has carried out when it stops in it, and the wait that it
stops at: all actions of a tick that does not go on, or those before a wait. -/
inductive Tick.Stops (t : Tick) : List Action → Option Action → Prop
  | ended {e : Ending} : t.verdict.ending? = some e → Stops t t.actions none
  | left {done rest : List Action} {a : Action} : t.actions = done ++ a :: rest →
      a.isWait = true → Stops t done (some a)

/-- Does an action show nothing? -/
def Action.isSilent : Action → Bool
  | .emit _ => false
  | _ => true

variable {t : Tick} {done : List Action} {stop : Option Action}

/-- A session stops in the actions before a tick, or behind them in the tick. -/
theorem Tick.Stops.of_after {as : List Action} (h : (t.after as).Stops done stop) :
    (∃ a rest, stop = some a ∧ as = done ++ a :: rest ∧ a.isWait = true) ∨
      ∃ done', done = as ++ done' ∧ t.Stops done' stop := by
  cases h with
  | ended hv => exact .inr ⟨t.actions, rfl, .ended hv⟩
  | @left _ rest a hactions ha =>
    rcases List.append_eq_append_iff.1 hactions with ⟨bs, rfl, hbs⟩ | ⟨bs, rfl, hbs⟩
    · exact .inr ⟨bs, rfl, .left hbs ha⟩
    · cases bs with
      | nil => exact .inr ⟨[], by simp, .left hbs.symm ha⟩
      | cons b bs =>
        obtain ⟨rfl, -⟩ := List.cons.inj hbs
        exact .inl ⟨a, bs, rfl, rfl, ha⟩

theorem Tick.Stops.silent (h : t.Stops done stop) (ht : t.actions.all Action.isSilent = true) :
    done.all Action.isSilent = true := by
  cases h with
  | ended => exact ht
  | left hactions =>
    rw [hactions, List.all_append, Bool.and_eq_true] at ht
    exact ht.1

/-- There is no wait among actions that take no time. -/
theorem no_wait {as done rest : List Action} {a : Action} (has : as.all Action.isLocal = true)
    (hsplit : as = done ++ a :: rest) : a.isWait ≠ true := by
  rw [hsplit, List.all_append, List.all_cons, Bool.and_eq_true, Bool.and_eq_true] at has
  rw [isWait_of_isLocal has.2.1]
  simp

/-- A session that stops in actions that take no time has carried out all of them. -/
theorem Tick.Stops.local (h : t.Stops done stop) (ht : t.actions.all Action.isLocal = true) :
    done = t.actions ∧ ∃ e, t.verdict.ending? = some e := by
  cases h with
  | ended hv => exact ⟨rfl, _, hv⟩
  | left hactions ha => exact absurd ha (no_wait ht hactions)

theorem Reading.ask_silent {r : Reading α} {q : Request} {next : α → Tick}
    (hnext : ∀ a done, (next a).Stops done stop → done.all Action.isSilent = true)
    (h : (r.ask q next).Stops done stop) : done.all Action.isSilent = true := by
  unfold Reading.ask at h
  split at h
  · exact h.silent rfl
  · exact h.silent rfl
  · rcases h.of_after with ⟨a, rest, -, has, -⟩ | ⟨done', rfl, hstops⟩
    · have hall : (done ++ a :: rest).all Action.isSilent = true := has ▸ rfl
      rw [List.all_append, Bool.and_eq_true] at hall
      exact hall.1
    · rw [List.all_append, hnext _ _ hstops]
      rfl

/-- A poll that a session stops in has shown nothing. -/
theorem poll_silent {w : Watch} {id : String} {frame : Frame} {service : Service} {u : Updater}
    {now : Nat} (h : (w.poll id frame service u now).Stops done stop) :
    done.all Action.isSilent = true := by
  refine Reading.ask_silent (fun tasks done h => ?_) h
  refine Reading.ask_silent (fun nodes done h => ?_) h
  obtain ⟨rfl, e, hv⟩ := h.local (isLocal_of_isAside (render_asides ..))
  cases hp : u.update? service ⟨tasks, activeNodes nodes, w.rollback⟩ with
  | none =>
    rw [render_fails _ _ _ hp]
    rfl
  | some plan =>
    obtain ⟨as, -, hr⟩ := render_goes id (now + frame.tasks.delay + frame.nodes.delay) frame.lag hp
    rw [hr] at hv
    cases hv

theorem announce_polled (w : Watch) (id : String) (converged : Bool) (now lag a b : Nat)
    (flag : Bool) : .note (.polled a b flag) ∉ (w.announce id converged now lag).actions := by
  unfold Watch.announce
  dsimp only
  repeat' split
  all_goals simp

/-- A poll tells of its snapshot with the flag of the session. -/
theorem poll_flag {w : Watch} {id : String} {frame : Frame} {service : Service} {u : Updater}
    {now a b : Nat} {flag : Bool}
    (h : .note (.polled a b flag) ∈ (w.poll id frame service u now).actions) :
    flag = w.rollback := by
  obtain ⟨tasks, hnodes⟩ := Reading.ask_note h
  obtain ⟨nodes, hrender⟩ := Reading.ask_note hnodes
  cases hp : u.update? service ⟨tasks, activeNodes nodes, w.rollback⟩ with
  | none =>
    rw [render_fails _ _ _ hp] at hrender
    cases List.mem_singleton.1 hrender
    rfl
  | some plan =>
    rw [render_eq _ _ _ hp] at hrender
    have hpolled : a = tasks.length ∧ b = (activeNodes nodes).length ∧ flag = w.rollback := by
      simpa [Tick.after, announce_polled] using hrender
    exact hpolled.2.2

/-! ## The tick that a session stops in -/

/-- Is an entry no event under the id of the notice of a rollback, and no poll with another flag? -/
def Entry.isMute (flag : Bool) : Entry → Bool
  | .emitted _ e => e.id != rollbackId
  | .noted (.polled _ _ rollback) => rollback == flag
  | _ => true

variable {h : History} {k : Nat} {w : Watch} {id : String} {frame : Frame}

theorem mute_of_silent {as : List Action} {flag : Bool} (ha : as.all Action.isSilent = true)
    (hflag : ∀ a b rollback, .note (.polled a b rollback) ∈ as → rollback = flag) (now : Nat) :
    ∀ x ∈ entriesOf (deedsFrom now as), x.isMute flag = true := by
  intro x hx
  obtain ⟨a, hmem, t, he⟩ := action_of_entry hx
  have hsilent := List.all_eq_true.1 ha a hmem
  cases a with
  | emit => cases hsilent
  | note n =>
    cases he
    cases n with
    | polled a b rollback => exact beq_iff_eq.2 (hflag a b rollback hmem)
    | _ => rfl
  | ask =>
    cases he
    rfl
  | _ => cases he

/-- What the journal says of a tick that a session stops in, once it has begun. The session is
interrupted before the service is read, or the service is not read at all; or the read is followed
by the notice that is due, and by no other. -/
inductive ToldOf (id : String) (h : History) (frame : Frame) (k : Nat) (interrupted : Prop) :
    List Entry → Prop
  | waiting : interrupted → 0 < frame.service.delay →
      ToldOf id h frame k interrupted [.asked (.service id)]
  | unanswered : (∀ service, frame.service.answer ≠ some (.ok service)) →
      ToldOf id h frame k interrupted [.asked (.service id)]
  | read {rest : List Entry} : frame.service.answer = some (.ok (h.service k)) →
      (∀ x ∈ rest, x.isMute (h.isRollback k) = true) →
      ToldOf id h frame k interrupted
        (.asked (.service id) :: ((h.rollbackNotice k).map (.emitted (h.read k)) ++ rest))

theorem ToldOf.imp {p q : Prop} {es : List Entry} (ht : ToldOf id h frame k p es) (hpq : p → q) :
    ToldOf id h frame k q es := by
  cases ht with
  | waiting hp hlong => exact .waiting (hpq hp) hlong
  | unanswered hs => exact .unanswered hs
  | read hs hrest => exact .read hs hrest

/-- A tick is left while it waits for the service, or stops behind that. -/
theorem reading_stops (h : (t.after (frame.reading id)).Stops done stop) :
    (done = [.ask (.service id)] ∧ stop = some (.wait frame.service.delay) ∧
        0 < frame.service.delay) ∨
      ∃ done', done = frame.reading id ++ done' ∧ t.Stops done' stop := by
  refine h.of_after.imp_left ?_
  rintro ⟨a, rest, rfl, hreading, ha⟩
  cases done with
  | nil =>
    obtain ⟨rfl, -⟩ := List.cons.inj hreading
    cases ha
  | cons b done =>
    obtain ⟨rfl, hwait⟩ := List.cons.inj hreading
    obtain ⟨rfl, rfl⟩ := eq_of_single hwait
    exact ⟨rfl, rfl, by simpa [Action.isWait] using ha⟩

theorem Tick.Stops.subset (h : t.Stops done stop) {a : Action} (ha : a ∈ done) : a ∈ t.actions := by
  cases h with
  | ended => exact ha
  | left hactions =>
    rw [hactions]
    exact List.mem_append_left _ ha

theorem isMute_note {now : Nat} {flag : Bool} {notes : List Note}
    (hnotes : ∀ n ∈ notes, n = .completed id) :
    ∀ x ∈ entriesOf (deedsFrom now (notes.map .note)), x.isMute flag = true := by
  refine mute_of_silent (by simp [Action.isSilent]) (fun a b rollback hmem => ?_) now
  obtain ⟨note, hnote, heq⟩ := List.mem_map.1 hmem
  cases heq
  cases hnotes _ hnote

/-- A session that stops in a tick has announced a rollback there if it is to be announced and the
service was read. -/
theorem Tracks.tick_stopped (ht : Tracks h k w) (hrollback : w.rollback = h.rollbackBefore k)
    (hdelay : frame.service.delay = (h.scenes k).service.delay)
    (hservice : ∀ service, frame.service.answer = some (.ok service) → h.service k = service)
    (hmode : ∀ service, frame.service.answer = some (.ok service) → w.updaterFor? service ≠ none)
    (hstop : (w.tick id frame (h.begins k)).Stops done stop) :
    ToldOf id h frame k (∃ time, stop = some (.wait time))
      (entriesOf (deedsFrom (h.begins k) done)) := by
  have hdoes := w.tick_does id frame (h.begins k)
  generalize w.tick id frame (h.begins k) = t at hdoes hstop
  have hread : ∀ t' : Tick, t = t'.after (frame.reading id) →
      (∀ done', t'.Stops done' stop → ToldOf id h frame k (∃ time, stop = some (.wait time))
        (entriesOf (deedsFrom (h.begins k) (frame.reading id ++ done')))) →
      ToldOf id h frame k (∃ time, stop = some (.wait time))
        (entriesOf (deedsFrom (h.begins k) done)) := by
    rintro t' rfl hbehind
    rcases reading_stops hstop with ⟨rfl, hwait, hlong⟩ | ⟨done', rfl, hstops⟩
    · exact .waiting ⟨_, hwait⟩ hlong
    · exact hbehind done' hstops
  cases hdoes with
  | silent hs =>
    refine hread ⟨[.stall], .never⟩ rfl fun done' hstops => ?_
    cases hstops with
    | ended => exact .unanswered (by simp [hs])
    | left hactions =>
      obtain ⟨rfl, -⟩ := eq_of_single hactions
      exact .unanswered (by simp [hs])
  | @failed e hs =>
    refine hread ⟨[], .fail (.query e)⟩ (by simp [Tick.after]) fun done' hstops => ?_
    obtain ⟨rfl, -⟩ := hstops.local rfl
    exact .unanswered (by simp [hs])
  | unrecognized hs hu => exact absurd hu (hmode _ hs)
  | @ended service u as v hs hu hf ha hgo =>
    obtain rfl := hservice service hs
    obtain ⟨notes, hactions, hnotes, -⟩ :=
      follow_notice (w.observe (h.service k)) id (h.service k).updateStatus
    refine hread ⟨as, v⟩ rfl fun done' hstops => ?_
    have hdue : as = (h.rollbackNotice k).map .emit ++ notes.map .note := by
      rw [hf] at hactions
      rw [History.rollbackNotice, ← hrollback]
      exact hactions
    obtain ⟨hall, -⟩ := hstops.local (isLocal_of_isAside ha)
    rw [hall, hdue, opening_entries hdelay]
    exact .read hs (isMute_note hnotes)
  | @stable service u as w' hs hu hf ha hw =>
    obtain rfl := hservice service hs
    refine hread ⟨as ++ [.emit convergedNotice, .note (.converged id)], .finish⟩
      (by simp [Tick.after]) fun done' hstops => ?_
    have hlocal : (as ++ [Action.emit convergedNotice, .note (.converged id)]).all
        Action.isLocal = true := by
      rw [List.all_append, isLocal_of_isAside ha]
      rfl
    obtain ⟨hall, -⟩ := hstops.local hlocal
    rw [hall, follow_goes hrollback hf, opening_entries hdelay]
    exact .read hs (by simp [deedsFrom, entriesOf, Deed.entry?, Entry.isMute]; decide)
  | @polled service u as w' hs hu hf ha hw =>
    obtain rfl := hservice service hs
    refine hread ((w'.poll id frame (h.service k) u (h.begins k + frame.service.delay)).after as)
      (by simp [Tick.after]) fun done' hstops => ?_
    rcases hstops.of_after with ⟨a, rest, -, has, hwait⟩ | ⟨polled, rfl, hpoll⟩
    · exact absurd hwait (no_wait (isLocal_of_isAside ha) has)
    · obtain ⟨-, rfl⟩ := ht.followed_goOn hf
      rw [follow_goes hrollback hf, opening_entries hdelay]
      refine .read hs (mute_of_silent (poll_silent hpoll) (fun a b rollback hmem => ?_) _)
      exact poll_flag (hpoll.subset hmem)

/-! ## Sessions -/

/-- What the journal says of a session that detaches, if it does. -/
def IsParting (id : String) (es : List Entry) : Prop :=
  es = [] ∨ ∃ now b, es = entriesOf (deedsFrom now (detachActions id b))

/-- What the journal says of the end of a session that has carried out `n` ticks: how far it got in
the next one, if that has begun, and that it detached, if it did. -/
inductive ToldLast (h : History) (script : Script) (id : String) (n : Nat) (interrupted : Prop) :
    List Entry → Prop
  | idle {parting : List Entry} : IsParting id parting → ToldLast h script id n interrupted parting
  | begun {es parting : List Entry} : ToldOf id h (script n) n interrupted es →
      IsParting id parting → ToldLast h script id n interrupted (es ++ parting)

variable {o : Output σ} {new : σ} {m : Option Moment} {r : Run σ} {script : Script}
  {options : Options} {n : Nat}

/-- A session that detaches and is refused nothing says so. -/
theorem detach_log (o : Output σ) (m : Option Moment) (id : String) (r : Run σ)
    (hunrefused : (detach o m id r).1.Unrefused) :
    ∃ parting, (detach o m id r).2.log = r.log ++ parting ∧ IsParting id parting := by
  have hlocal := isLocal_of_isAside (detach_asides id r.converged)
  have hcarried := actAll_carried o m r (detachActions id r.converged)
  unfold detach at hunrefused ⊢
  dsimp only at hunrefused ⊢
  generalize r.actAll o m (detachActions id r.converged) = acted at hcarried hunrefused ⊢
  cases hcarried with
  | through hlog _ => exact ⟨_, hlog, .inr ⟨r.now, r.converged, rfl⟩⟩
  | refused => exact absurd rfl (hunrefused _)
  | left has ha => exact absurd ha (no_wait hlocal has)
  | stuck has => exact absurd rfl (no_wait hlocal has)

theorem Halt.told {result : Ending × Run σ}
    (hhalt : Halt o m id script n ((script.history options).watchAt id n) r result)
    (hr : Reached (script.history options) script id n r) (hunrefused : result.1.Unrefused)
    (hmode : ∀ service, (script 0).service.answer = some (.ok service) →
      service.replicas.isSome = true ∨ service.spec.mode.isGlobal = true) :
    ∃ last, result.2.log = r.log ++ last ∧
      ToldLast (script.history options) script id n (result.2.interrupted = true) last := by
  have hdelay : (script n).service.delay =
      ((script.history options).scenes n).service.delay := rfl
  have hservice : ∀ service, (script n).service.answer = some (.ok service) →
      (script.history options).service n = service := fun _ => service_of_answer options
  generalize script.history options = h at hhalt hr hdelay hservice ⊢
  have hrecognized : ∀ service, (script n).service.answer = some (.ok service) →
      (h.watchAt id n).updaterFor? service ≠ none := by
    intro service hs hu
    obtain rfl := hservice service hs
    rw [hr.tracks.updater, updater?_eq_none hr.tracks] at hu
    obtain ⟨rfl, hreplicas, hglobal⟩ := hu
    simpa [hreplicas, hglobal] using hmode _ hs
  have htold : ∀ done stop,
      ((h.watchAt id n).tick id (script n) (h.begins n)).Stops done stop →
      ToldOf id h (script n) n (∃ time, stop = some (.wait time))
        (entriesOf (deedsFrom (h.begins n) done)) := fun done stop =>
    hr.tracks.tick_stopped (History.watchAt_rollback hr.passed) hdelay hservice hrecognized
  have hcarried : ∀ {acted}, r.interrupted = false →
      r.actAll o m ((h.watchAt id n).tick id (script n) r.now).actions = acted →
      Carried r ((h.watchAt id n).tick id (script n) (h.begins n)).actions acted := by
    rintro _ hi rfl
    rw [hr.now hi]
    exact actAll_carried ..
  cases hhalt with
  | unfinished => exact ⟨[], (List.append_nil _).symm, .idle (.inl rfl)⟩
  | detached =>
    obtain ⟨parting, hlog, hparting⟩ := detach_log o m id r hunrefused
    exact ⟨parting, hlog, .idle hparting⟩
  | refused => exact absurd rfl (hunrefused _)
  | left hi hact =>
    cases hcarried hi hact with
    | left hactions ha hlog hleft =>
      rw [hr.now hi] at hlog
      obtain ⟨parting, hparted, hparting⟩ := detach_log o m id _ hunrefused
      have hinterrupted := (detach_acted o m id _).interrupted hleft
      exact ⟨_, hparted.trans (by rw [hlog, List.append_assoc]),
        .begun ((htold _ _ (.left hactions ha)).imp fun _ => hinterrupted) hparting⟩
  | stuck hi hact =>
    cases hcarried hi hact with
    | stuck hactions hlog =>
      rw [hr.now hi] at hlog
      exact ⟨_, hlog.trans (congrArg _ (List.append_nil _).symm),
        .begun ((htold _ _ (.left hactions rfl)).imp (by simp)) (.inl rfl)⟩
  | ended hi hact hv =>
    rw [hr.now hi] at hv
    cases hcarried hi hact with
    | through hlog _ =>
      rw [hr.now hi] at hlog
      exact ⟨_, hlog.trans (congrArg _ (List.append_nil _).symm),
        .begun ((htold _ _ (.ended hv)).imp (by simp)) (.inl rfl)⟩

/-- The journal of a tick that a session carries out, up to what it tells of stability: the notice
of a rollback comes behind the read of the service and before all else that is shown. The update is
made with the flag of the history, and shows under the id of the notice only lines of nodes with
that short id, where the service is global. -/
def History.Opens (h : History) (id : String) (k : Nat) : Prop :=
  ∃ updater plan rest, h.updater? k = some updater ∧
    updater.update? (h.service k) ⟨(h.view k).tasks, (h.view k).active, h.isRollback k⟩ =
      some plan ∧
    h.entriesAt id k = .asked (.service id) :: ((h.rollbackNotice k).map (.emitted (h.read k)) ++
      .asked (.tasks (.current id)) :: .asked .nodes :: h.poll k ::
        (plan.events.map (.emitted (h.updated k)) ++ rest)) ∧
    (∀ e ∈ plan.events, e.id = rollbackId → (h.service 0).replicas = none ∧
      ∃ x ∈ tasksByNode (h.view k).tasks (h.view k).active, shortId x.1 = rollbackId) ∧
    ∀ x ∈ rest, x.isVerdict = true

theorem History.opens (id : String) (hx : ∀ i, i ≤ k → h.outcome? i = none) : h.Opens id k := by
  obtain ⟨plan, rest, hplan, hrest, hentries⟩ := h.entriesAt_eq id hx
  obtain ⟨u, hu, hupdate⟩ := Option.bind_eq_some_iff.1 hplan
  refine ⟨u, plan, rest, hu, hupdate, hentries, fun e he hid => ?_, hrest⟩
  obtain ⟨hglobal, x, hx, hshort, -⟩ :=
    h.plan_line hplan he (by rw [hid]; decide) (by rw [hid]; decide)
  exact ⟨hglobal, x, hx, hshort.trans hid⟩

/-- The announcements of a session with any engine, whenever it is interrupted, whose first service
has a replica count or is global. Each tick that it carries out shows the notice of a rollback first
of all if one is due, and so does the tick that it stops in, once the service was read; no other
event is that notice. It is due exactly at the ticks that announce a rollback, which are those that
start one with a message while no other has started since the update last went on, and there is one
of it at most; so between two announcements the update has gone on. The flag that updates are made
with is that of a rollback under way. -/
theorem run_announcements (ho : o.TakesAll new) (options : Options) (m : Option Moment)
    (id : String) (script : Script)
    (hmode : ∀ service, (script 0).service.answer = some (.ok service) →
      service.replicas.isSome = true ∨ service.spec.mode.isGlobal = true) (count : Nat) :
    let h := script.history options
    let whole := run o new options m id script count
    (∃ n last, (∀ k, k < n → (h.scenes k).frame = script k) ∧
      whole.2.log = .noted (.watching id) :: ((List.range n).flatMap (h.entriesAt id) ++ last) ∧
      (∀ k, k < n → h.Opens id k) ∧
      ToldLast h script id n (whole.2.interrupted = true) last) ∧
    (∀ k, (h.rollbackNotice k).length ≤ 1 ∧ ∀ e, e ∈ h.rollbackNotice k ↔
      ∃ message, e = .act rollbackId message ∧ h.Announces k message) ∧
    (∀ j k message message', j < k → h.Announces j message → h.Announces k message' →
      ∃ i, j < i ∧ i < k ∧ showsUpdating (h.service i) = true) ∧
    ∀ k, h.isRollback k = true ↔ ∃ j, j ≤ k ∧ h.UnderWay j k := by
  intro h whole
  obtain ⟨n, r, hr, hhalt⟩ := ownRun_account o new options m id script count
  obtain ⟨last, hlog, htold⟩ :=
    hhalt.told hr (ownRun_unrefused ho options m id script count) hmode
  obtain ⟨hfinished, hinterrupted⟩ := finish_spec o (ownRun o new options m id script count)
  refine ⟨⟨n, last, hr.answered, ?_, fun k hk => h.opens id fun i hi => hr.passed i (by omega), ?_⟩,
    fun k => ⟨h.length_rollbackNotice k, fun e => History.mem_rollbackNotice⟩,
    fun j k message message' hjk hj hk => hj.separated hk hjk, fun k => History.isRollback_iff⟩
  · exact hfinished.trans (hlog.trans (by rw [hr.log, List.cons_append]))
  · rw [← hinterrupted] at htold
    exact htold

/-- A rollback that goes on while nothing is told of it, and another one after the update has gone
on. Each is announced once. -/
theorem run_announcements_of_two :
    let status : Nat → Option UpdateStatus := fun k =>
      match k with
      | 0 => some ⟨.rollbackStarted, "why"⟩
      | 1 => none
      | 2 => some ⟨.rollbackStarted, "still"⟩
      | 3 => some ⟨.updating, ""⟩
      | _ => some ⟨.rollbackStarted, "again"⟩
    let script : Script := fun k =>
      ⟨.prompt ⟨"web", ⟨"web", .ofReplicas 1, none⟩, status k⟩, .prompt [], .prompt [], 0⟩
    let h := script.history ⟨200, 500⟩
    let whole := run Output.recording .empty ⟨200, 500⟩ none "web" script 6
    Output.recording.TakesAll .empty ∧
      (∀ service, (script 0).service.answer = some (.ok service) →
        service.replicas.isSome = true ∨ service.spec.mode.isGlobal = true) ∧
      whole.2.events.filter (fun e => e.id == rollbackId) =
        [.act rollbackId "why", .act rollbackId "again"] ∧
      h.Announces 0 "why" ∧ h.Announces 4 "again" ∧
      ∃ i, 0 < i ∧ i < 4 ∧ showsUpdating (h.service i) = true := by
  intro status script h whole
  have ho : Output.recording.TakesAll .empty := fun _ _ _ _ => rfl
  have hmode : ∀ service, (script 0).service.answer = some (.ok service) →
      service.replicas.isSome = true ∨ service.spec.mode.isGlobal = true := by
    rintro service hs
    cases hs
    exact .inl rfl
  obtain ⟨-, hnotices, hseparated, -⟩ :=
    run_announcements ho ⟨200, 500⟩ none "web" script hmode 6
  have hannounces : ∀ k message, .act rollbackId message ∈ h.rollbackNotice k →
      h.Announces k message := by
    intro k message hmem
    obtain ⟨_, hevent, hannounced⟩ := ((hnotices k).2 _).1 hmem
    cases hevent
    exact hannounced
  have hfirst := hannounces 0 "why" (by decide +kernel)
  have hsecond := hannounces 4 "again" (by decide +kernel)
  exact ⟨ho, hmode, by decide +kernel, hfirst, hsecond,
    hseparated 0 4 _ _ (by decide) hfirst hsecond⟩

/-- A service in no mode that a session can watch, and which tells of a rollback. The session fails
before it follows that. -/
theorem unannounced_rollback :
    let service : Service := ⟨"web", ⟨"web", .blank, none⟩, some ⟨.rollbackStarted, "why"⟩⟩
    let script : Script := fun _ => ⟨.prompt service, .prompt [], .prompt [], 0⟩
    let whole := run Output.recording .empty ⟨200, 500⟩ none "web" script 1
    Output.recording.TakesAll .empty ∧ (script.history ⟨200, 500⟩).Announces 0 "why" ∧
      whole.1 = .done (.error .unrecognizedMode) ∧
      whole.2.log = [.noted (.watching "web"), .asked (.service "web")] := by
  intro service script whole
  have hfirst : ¬ ∃ j, j < 0 ∧ (script.history ⟨200, 500⟩).UnderWay j 0 := by simp
  exact ⟨fun _ _ _ _ => rfl, ⟨rfl, by decide, hfirst⟩, rfl, rfl⟩

end Rollout.Session
