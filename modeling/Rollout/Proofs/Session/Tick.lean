import Rollout.Proofs.Session.Deeds
import Rollout.Proofs.Session.Stage

/-!
What one tick can do (`Watch.tick_does`). It asks its queries in order, and goes on only with the
answers of all of them (`Watch.tick_goOn`); it finishes only when convergence was seen
(`Watch.tick_finish`), and it stalls only where it never ends (`Watch.tick_sound`).
-/

namespace Rollout.Session

/-! ## Actions on the side -/

/-- Does an action take no time, and neither ask nor say that the service converged? -/
def Action.isAside : Action → Bool
  | .emit _ => true
  | .settle _ => true
  | .note (.converged _) => false
  | .note _ => true
  | _ => false

theorem timeAfter_asides {as : List Action} (ha : as.all Action.isAside = true) (now : Nat) :
    timeAfter now as = now := by
  induction as generalizing now with
  | nil => rfl
  | cons a as ih =>
    rw [List.all_cons, Bool.and_eq_true] at ha
    have hspan : a.span = 0 := by
      cases a <;> first | rfl | exact absurd ha.1 (by simp [Action.isAside])
    rw [timeAfter, hspan]
    exact ih ha.2 now

theorem asides_ask {as : List Action} (ha : as.all Action.isAside = true) (q : Query) :
    as.countP (Action.isAsk q) = 0 := by
  rw [List.countP_eq_zero]
  intro a hmem
  have hside := List.all_eq_true.1 ha a hmem
  cases a <;> simp_all [Action.isAside, Action.isAsk]

theorem asides_stall {as : List Action} (ha : as.all Action.isAside = true) : .stall ∉ as := by
  intro hn
  cases List.all_eq_true.1 ha _ hn

theorem asides_converged {as : List Action} (ha : as.all Action.isAside = true) (id : String) :
    .note (.converged id) ∉ as := by
  intro hn
  cases List.all_eq_true.1 ha _ hn

theorem follow_asides (w : Watch) (id : String) (status : Option UpdateStatus) :
    (w.follow id status).actions.all Action.isAside = true := by
  unfold Watch.follow
  repeat' split
  all_goals rfl

theorem detach_asides (id : String) (b : Bool) :
    (detachActions id b).all Action.isAside = true := by
  cases b <;> rfl

theorem announce_asides (w : Watch) (id : String) (converged : Bool) (now lag : Nat) :
    (w.announce id converged now lag).actions.all Action.isAside = true := by
  unfold Watch.announce
  dsimp only
  repeat' split
  all_goals rfl

theorem announce_verdict (w : Watch) (id : String) (converged : Bool) (now lag : Nat) :
    (w.announce id converged now lag).verdict =
      .goOn { w with since := if converged then some (w.since.getD now) else none } := by
  cases converged <;> rfl

theorem render_fails {w : Watch} {service : Service} {updater : Updater} {tasks : List Task}
    {nodes : List Node} (id : String) (now lag : Nat)
    (hp : updater.update? service ⟨tasks, activeNodes nodes, w.rollback⟩ = none) :
    w.render id service updater tasks nodes now lag =
      ⟨[.note (.polled tasks.length (activeNodes nodes).length w.rollback)],
        .fail .noReplicaCount⟩ := by
  unfold Watch.render
  dsimp only
  rw [hp]

/-- A snapshot that is shown is polled, then come the lines of its plan and the counts, and last
what is told of stability. -/
theorem render_eq {w : Watch} {service : Service} {updater : Updater} {tasks : List Task}
    {nodes : List Node} {plan : Plan Updater} (id : String) (now lag : Nat)
    (hp : updater.update? service ⟨tasks, activeNodes nodes, w.rollback⟩ = some plan) :
    w.render id service updater tasks nodes now lag =
      (({ w with updater := some plan.final } : Watch).announce id plan.converged now lag).after
        ([.note (.polled tasks.length (activeNodes nodes).length w.rollback)] ++
          (plan.events.map .emit ++
            ((plan.tally.toList.map fun t => .note (.counted t)) ++
             [.settle plan.converged]))) := by
  unfold Watch.render
  dsimp only
  rw [hp]
  simp only [List.append_assoc]

/-- A session that shows a plan goes on, with what the plan leaves behind. -/
theorem render_goes {w : Watch} {service : Service} {updater : Updater} {tasks : List Task}
    {nodes : List Node} {plan : Plan Updater} (id : String) (now lag : Nat)
    (hp : updater.update? service ⟨tasks, activeNodes nodes, w.rollback⟩ = some plan) :
    ∃ as, as.all Action.isAside = true ∧ w.render id service updater tasks nodes now lag =
      ⟨as, .goOn { w with
        updater := some plan.final,
        since := if plan.converged then some (w.since.getD now) else none }⟩ := by
  refine ⟨_, ?_, (render_eq id now lag hp).trans (congrArg (Tick.mk _) (announce_verdict ..))⟩
  simp only [List.all_append, Bool.and_eq_true]
  refine ⟨⟨rfl, ?_, ?_, rfl⟩, announce_asides ..⟩
  · simp [Action.isAside]
  · simp [Action.isAside]

/-- Showing a snapshot neither ends a session well nor holds it. -/
theorem render_verdict (w : Watch) (id : String) (service : Service) (u : Updater)
    (tasks : List Task) (nodes : List Node) (now lag : Nat) :
    (w.render id service u tasks nodes now lag).verdict ≠ .finish ∧
      (w.render id service u tasks nodes now lag).verdict ≠ .never := by
  cases hp : u.update? service ⟨tasks, activeNodes nodes, w.rollback⟩ with
  | none => simp [render_fails _ _ _ hp]
  | some plan =>
    obtain ⟨as, -, hr⟩ := render_goes id now lag hp
    simp [hr]

theorem render_asides (w : Watch) (id : String) (service : Service) (u : Updater)
    (tasks : List Task) (nodes : List Node) (now lag : Nat) :
    (w.render id service u tasks nodes now lag).actions.all Action.isAside = true := by
  cases hp : u.update? service ⟨tasks, activeNodes nodes, w.rollback⟩ with
  | none =>
    rw [render_fails _ _ _ hp]
    rfl
  | some plan =>
    obtain ⟨as, ha, hr⟩ := render_goes id now lag hp
    rw [hr]
    exact ha

/-! ## What follows on the service -/

/-- A tick gets past a query only with its answer. -/
theorem Reading.ask_inv {r : Reading α} {q : Request} {next : α → Tick} {v : Verdict}
    (h : (r.ask q next).verdict = v) (hn : v ≠ .never) (hf : ∀ e, v ≠ .fail (.query e)) :
    ∃ a, r.answer = some (.ok a) ∧ (next a).verdict = v ∧
      (r.ask q next).actions = [.ask q, .wait r.delay] ++ (next a).actions := by
  unfold Reading.ask at h ⊢
  cases hr : r.answer with
  | none =>
    rw [hr] at h
    exact absurd h.symm hn
  | some answer =>
    cases answer with
    | error e =>
      rw [hr] at h
      exact absurd h.symm (hf e)
    | ok a =>
      rw [hr] at h
      exact ⟨a, rfl, h, rfl⟩

/-- The notes of a tick are those of what follows on its answers. -/
theorem Reading.ask_note {r : Reading α} {q : Request} {next : α → Tick} {n : Note}
    (h : .note n ∈ (r.ask q next).actions) : ∃ a, .note n ∈ (next a).actions := by
  unfold Reading.ask at h
  cases hr : r.answer with
  | none => simp [hr] at h
  | some answer =>
    cases answer with
    | error e => simp [hr] at h
    | ok a =>
      rw [hr] at h
      exact ⟨a, by simpa [Tick.after] using h⟩

theorem follow_goOn {w w' : Watch} {id : String} {status : Option UpdateStatus}
    (h : (w.follow id status).verdict = .goOn w') : ∃ b, w' = { w with rollback := b } := by
  unfold Watch.follow at h
  repeat' split at h
  all_goals cases h
  all_goals exact ⟨_, rfl⟩

theorem follow_ne_never (w : Watch) (id : String) (status : Option UpdateStatus) :
    (w.follow id status).verdict ≠ .never := by
  unfold Watch.follow
  repeat' split
  all_goals simp

theorem follow_finish {w : Watch} {id : String} {status : Option UpdateStatus}
    (h : (w.follow id status).verdict = .finish) : w.isConverged = true := by
  unfold Watch.follow at h
  repeat' split at h
  all_goals first | assumption | cases h

theorem isConverged_of_isStable {w : Watch} {now : Nat} (h : w.isStable now = true) :
    w.isConverged = true := by
  unfold Watch.isStable at h
  split at h
  · rename_i hs
    rw [Watch.isConverged, hs]
    rfl
  · cases h

/-- The query for the service. -/
def Frame.reading (frame : Frame) (id : String) : List Action :=
  [.ask (.service id), .wait frame.service.delay]

/-- The queries for the tasks and the nodes. -/
def Frame.queries (frame : Frame) (id : String) : List Action :=
  [.ask (.tasks (.current id)), .wait frame.tasks.delay, .ask .nodes, .wait frame.nodes.delay]

@[simp]
theorem reading_asks (frame : Frame) (id : String) (q : Query) :
    (frame.reading id).countP (Action.isAsk q) = if q = .service then 1 else 0 := by
  cases q <;> rfl

@[simp]
theorem queries_asks (frame : Frame) (id : String) (q : Query) :
    (frame.queries id).countP (Action.isAsk q) = if q = .service then 0 else 1 := by
  cases q <;> rfl

/-- Everything that a tick can do, up to the queries behind the one for the service. -/
inductive Watch.Does (w : Watch) (id : String) (frame : Frame) (now : Nat) : Tick → Prop
  | silent : frame.service.answer = none →
      Does w id frame now ⟨frame.reading id ++ [.stall], .never⟩
  | failed {e : EngineError} : frame.service.answer = some (.error e) →
      Does w id frame now ⟨frame.reading id, .fail (.query e)⟩
  | unrecognized {service : Service} : frame.service.answer = some (.ok service) →
      w.updaterFor? service = none →
      Does w id frame now ⟨frame.reading id, .fail .unrecognizedMode⟩
  | ended {service : Service} {u : Updater} {as : List Action} {v : Verdict} :
      frame.service.answer = some (.ok service) → w.updaterFor? service = some u →
      (w.observe service).follow id service.updateStatus = ⟨as, v⟩ →
      as.all Action.isAside = true → (∀ w', v ≠ .goOn w') →
      Does w id frame now ⟨frame.reading id ++ as, v⟩
  | stable {service : Service} {u : Updater} {as : List Action} {w' : Watch} :
      frame.service.answer = some (.ok service) → w.updaterFor? service = some u →
      (w.observe service).follow id service.updateStatus = ⟨as, .goOn w'⟩ →
      as.all Action.isAside = true → w'.isStable (now + frame.service.delay) = true →
      Does w id frame now
        ⟨frame.reading id ++ as ++ [.emit convergedNotice, .note (.converged id)], .finish⟩
  | polled {service : Service} {u : Updater} {as : List Action} {w' : Watch} :
      frame.service.answer = some (.ok service) → w.updaterFor? service = some u →
      (w.observe service).follow id service.updateStatus = ⟨as, .goOn w'⟩ →
      as.all Action.isAside = true → w'.isStable (now + frame.service.delay) = false →
      Does w id frame now ((w'.poll id frame service u (now + frame.service.delay)).after
        (frame.reading id ++ as))

theorem Watch.tick_does (w : Watch) (id : String) (frame : Frame) (now : Nat) :
    w.Does id frame now (w.tick id frame now) := by
  unfold Watch.tick Reading.ask
  cases hs : frame.service.answer with
  | none => exact .silent hs
  | some answer =>
    cases answer with
    | error e => exact .failed hs
    | ok service =>
      simp only
      cases hu : (w.observe service).updaterFor? service with
      | none => exact .unrecognized hs hu
      | some u =>
        simp only
        have ha := follow_asides (w.observe service) id service.updateStatus
        cases hf : (w.observe service).follow id service.updateStatus with
        | mk as v =>
          rw [hf] at ha
          cases v with
          | goOn w' =>
            cases hw : w'.isStable (now + frame.service.delay) with
            | true =>
              have ht : w.Does id frame now _ := .stable hs hu hf ha hw
              simpa [Tick.after, Frame.reading, hw] using ht
            | false =>
              have ht : w.Does id frame now _ := .polled hs hu hf ha hw
              simpa [Tick.after, Frame.reading, hw] using ht
          | _ => exact Watch.Does.ended hs hu hf ha (by simp)

/-! ## What follows on the tasks and the nodes -/

theorem poll_goOn {w w' : Watch} {id : String} {frame : Frame} {service : Service} {u : Updater}
    {now : Nat} (h : (w.poll id frame service u now).verdict = .goOn w') :
    ∃ tasks nodes plan as, frame.tasks.answer = some (.ok tasks) ∧
      frame.nodes.answer = some (.ok nodes) ∧
      u.update? service ⟨tasks, activeNodes nodes, w.rollback⟩ = some plan ∧
      w'.updater = some plan.final ∧ w'.isConverged = plan.converged ∧
      as.all Action.isAside = true ∧
      (w.poll id frame service u now).actions = frame.queries id ++ as := by
  obtain ⟨tasks, ht, hnodes, hacts⟩ := Reading.ask_inv h (by simp) (by simp)
  obtain ⟨nodes, hn, hrender, hacts'⟩ := Reading.ask_inv hnodes (by simp) (by simp)
  cases hp : u.update? service ⟨tasks, activeNodes nodes, w.rollback⟩ with
  | none =>
    rw [render_fails _ _ _ hp] at hrender
    cases hrender
  | some plan =>
    obtain ⟨as, ha, hr⟩ := render_goes id (now + frame.tasks.delay + frame.nodes.delay) frame.lag hp
    rw [hr] at hrender hacts'
    cases hrender
    refine ⟨tasks, nodes, plan, as, ht, hn, hp, rfl, ?_, ha, ?_⟩
    · cases plan.converged <;> rfl
    · rw [Watch.poll, hacts, hacts']
      rfl

theorem poll_ne_finish (w : Watch) (id : String) (frame : Frame) (service : Service) (u : Updater)
    (now : Nat) : (w.poll id frame service u now).verdict ≠ .finish := by
  intro h
  obtain ⟨tasks, -, hnodes, -⟩ := Reading.ask_inv h (by simp) (by simp)
  obtain ⟨nodes, -, hrender, -⟩ := Reading.ask_inv hnodes (by simp) (by simp)
  exact (render_verdict ..).1 hrender

theorem poll_converged (w : Watch) (id : String) (frame : Frame) (service : Service) (u : Updater)
    (now : Nat) (s : String) :
    .note (.converged s) ∉ (w.poll id frame service u now).actions := by
  intro h
  obtain ⟨tasks, hnodes⟩ := Reading.ask_note h
  obtain ⟨nodes, hrender⟩ := Reading.ask_note hnodes
  exact asides_converged (render_asides ..) s hrender

/-! ## Ticks that go on, finish or stall -/

/-- A tick that goes on has been answered all its queries, and leaves behind what its plan leaves
behind. -/
theorem Watch.tick_goOn {w w' : Watch} {id : String} {frame : Frame} {now : Nat}
    (h : (w.tick id frame now).verdict = .goOn w') :
    (w.tick id frame now).actions.countP (Action.isAsk .nodes) = 1 ∧
      ∃ service tasks nodes u b plan, frame.service.answer = some (.ok service) ∧
        frame.tasks.answer = some (.ok tasks) ∧ frame.nodes.answer = some (.ok nodes) ∧
        w.updaterFor? service = some u ∧
        u.update? service ⟨tasks, activeNodes nodes, b⟩ = some plan ∧
        w'.updater = some plan.final ∧ w'.isConverged = plan.converged := by
  have hdoes := w.tick_does id frame now
  generalize w.tick id frame now = t at h hdoes ⊢
  cases hdoes with
  | ended _ _ _ _ hv => exact absurd h (hv w')
  | @polled service u as w₁ hs hu hf ha hw =>
    obtain ⟨tasks, nodes, plan, bs, ht, hn, hp, hup, hc, hb, hpoll⟩ := poll_goOn h
    refine ⟨?_, service, tasks, nodes, u, w₁.rollback, plan, hs, ht, hn, hu, hp, hup, hc⟩
    simp [Tick.after, hpoll, List.countP_append, asides_ask ha, asides_ask hb]
  | _ => cases h

/-- A tick finishes only when convergence was seen, and then asks for the service alone. -/
theorem Watch.tick_finish {w : Watch} {id : String} {frame : Frame} {now : Nat}
    (h : (w.tick id frame now).verdict = .finish) :
    w.isConverged = true ∧ (w.tick id frame now).actions.countP (Action.isAsk .nodes) = 0 := by
  have hdoes := w.tick_does id frame now
  generalize w.tick id frame now = t at h hdoes ⊢
  cases hdoes with
  | @ended service u as v hs hu hf ha hv =>
    have hfinish : ((w.observe service).follow id service.updateStatus).verdict = .finish := by
      rw [hf]
      exact h
    have hc : (w.observe service).isConverged = true := follow_finish hfinish
    exact ⟨hc, by simp [List.countP_append, asides_ask ha]⟩
  | @stable service u as w₁ hs hu hf ha hw =>
    have hgo : ((w.observe service).follow id service.updateStatus).verdict = .goOn w₁ := by rw [hf]
    obtain ⟨b, rfl⟩ := follow_goOn hgo
    have hc := isConverged_of_isStable hw
    exact ⟨hc, by simp [List.countP_append, Action.isAsk, asides_ask ha]⟩
  | polled => exact (poll_ne_finish _ _ _ _ _ _ h).elim
  | _ => cases h

/-- Only a tick that finishes says that the service converged. -/
theorem Watch.tick_converged {w : Watch} {id : String} {frame : Frame} {now : Nat}
    (h : .note (.converged id) ∈ (w.tick id frame now).actions) :
    (w.tick id frame now).verdict = .finish := by
  have hdoes := w.tick_does id frame now
  generalize w.tick id frame now = t at h hdoes ⊢
  cases hdoes with
  | @ended service u as v hs hu hf ha hv =>
    simp [Frame.reading, asides_converged ha] at h
  | stable => rfl
  | @polled service u as w₁ hs hu hf ha hw =>
    simp [Tick.after, Frame.reading, asides_converged ha, poll_converged] at h
  | _ => simp [Frame.reading] at h

/-- A tick that stalls never ends, and one that never ends stalls as the last thing it does. -/
def Tick.Sound (t : Tick) : Prop :=
  (t.verdict ≠ .never ∧ .stall ∉ t.actions) ∨
    (t.verdict = .never ∧ ∃ as, .stall ∉ as ∧ t.actions = as ++ [.stall])

theorem Tick.Sound.after {t : Tick} (h : t.Sound) {as : List Action} (ha : .stall ∉ as) :
    (t.after as).Sound := by
  rcases h with ⟨hv, ht⟩ | ⟨hv, bs, hb, ht⟩
  · exact .inl ⟨hv, by simp [Tick.after, ha, ht]⟩
  · exact .inr ⟨hv, as ++ bs, by simp [ha, hb], by simp [Tick.after, ht]⟩

theorem sound_of_goes {as : List Action} {v : Verdict} (ha : .stall ∉ as) (hv : v ≠ .never) :
    Tick.Sound ⟨as, v⟩ := .inl ⟨hv, ha⟩

theorem Reading.ask_sound {r : Reading α} {q : Request} {next : α → Tick}
    (h : ∀ a, (next a).Sound) : (r.ask q next).Sound := by
  unfold Reading.ask
  split
  · exact .inr ⟨rfl, [.ask q, .wait r.delay], by simp, rfl⟩
  · exact sound_of_goes (by simp) (by simp)
  · exact (h _).after (by simp)

theorem poll_sound (w : Watch) (id : String) (frame : Frame) (service : Service) (u : Updater)
    (now : Nat) : (w.poll id frame service u now).Sound := by
  refine Reading.ask_sound fun tasks => Reading.ask_sound fun nodes => ?_
  exact .inl ⟨(render_verdict ..).2, asides_stall (render_asides ..)⟩

theorem Watch.tick_sound (w : Watch) (id : String) (frame : Frame) (now : Nat) :
    (w.tick id frame now).Sound := by
  have hdoes := w.tick_does id frame now
  generalize w.tick id frame now = t at hdoes ⊢
  cases hdoes with
  | silent hs => exact .inr ⟨rfl, frame.reading id, by simp [Frame.reading], rfl⟩
  | @ended service u as v hs hu hf ha hv =>
    have hnever := follow_ne_never (w.observe service) id service.updateStatus
    rw [hf] at hnever
    exact sound_of_goes (by simp [Frame.reading, asides_stall ha]) hnever
  | @stable service u as w₁ hs hu hf ha hw =>
    exact sound_of_goes (by simp [Frame.reading, asides_stall ha]) (by simp)
  | @polled service u as w₁ hs hu hf ha hw =>
    exact (poll_sound ..).after (by simp [Frame.reading, asides_stall ha])
  | _ => exact sound_of_goes (by simp [Frame.reading]) (by simp)

end Rollout.Session
