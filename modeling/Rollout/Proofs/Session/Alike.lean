import Rollout.Proofs.Session.Course
import Rollout.Proofs.Session.Queries
import Rollout.Proofs.Update.Alike

/-!
Two sessions that differ only in what the service tells of its update, among the statuses with which
a session goes on. They go on in step, with the same result at the same time, and what they show
differs in the notices of a rollback and in telling of it (`run_alike`).
-/

namespace Rollout

/-- A status with which a session goes on, whatever it has seen. -/
def isOngoing (status : Option UpdateStatus) : Bool :=
  match status with
  | none => true
  | some ⟨.updating, _⟩ => true
  | some ⟨.rollbackStarted, _⟩ => true
  | some ⟨.unknown, _⟩ => true
  | _ => false

/-- A service with another update status. -/
def Service.retold (f : Option UpdateStatus → Option UpdateStatus) (s : Service) : Service :=
  { s with updateStatus := f s.updateStatus }

namespace Session

def Frame.retold (f : Option UpdateStatus → Option UpdateStatus) (frame : Frame) : Frame :=
  { frame with service := frame.service.map (Service.retold f) }

/-- A script whose services tell something else of their updates. -/
def Script.retold (f : Nat → Option UpdateStatus → Option UpdateStatus) (script : Script) :
    Script :=
  fun k => (script k).retold (f k)

/-! ## Journals -/

/-- Entries that differ in telling of a rollback at most. -/
inductive Entry.Alike : Entry → Entry → Prop
  | same (x : Entry) : Alike x x
  | emitted (t : Nat) {e e' : Event} : e.Alike e' → Alike (.emitted t e) (.emitted t e')
  | polled (tasks active : Nat) (b b' : Bool) :
      Alike (.noted (.polled tasks active b)) (.noted (.polled tasks active b'))

/-- A journal without the notices of rollbacks. They come right behind the reads of the service. -/
def withoutRollbacks : List Entry → List Entry
  | .asked (.service id) :: .emitted t e :: es =>
    if e.id = rollbackId then .asked (.service id) :: withoutRollbacks es
    else .asked (.service id) :: .emitted t e :: withoutRollbacks es
  | x :: es => x :: withoutRollbacks es
  | [] => []

theorem withoutRollbacks_later {es : List Entry} (h : ∀ id, .asked (.service id) ∉ es) :
    withoutRollbacks es = es := by
  induction es with
  | nil => rfl
  | cons x es ih =>
    rw [withoutRollbacks, ih fun id hmem => h id (List.mem_cons_of_mem x hmem)]
    rintro id t e es' rfl
    exact absurd List.mem_cons_self (h id)

theorem withoutRollbacks_append {as bs : List Entry} (hb : ∀ t e rest, bs ≠ .emitted t e :: rest) :
    withoutRollbacks (as ++ bs) = withoutRollbacks as ++ withoutRollbacks bs := by
  fun_induction withoutRollbacks as with
  | case1 id t e es he ih => simp only [List.cons_append, withoutRollbacks, he, if_true, ih]
  | case2 id t e es he ih => simp only [List.cons_append, withoutRollbacks, he, if_false, ih]
  | case3 x es hx ih =>
    rw [List.cons_append, withoutRollbacks, ih, List.cons_append]
    intro id t e rest hask
    cases es with
    | nil => exact hb t e rest
    | cons y es =>
      intro hy
      exact hx id t e es hask (congrArg (· :: es) (List.cons.inj hy).1)
  | case4 => rfl

/-- Nothing else is left out. -/
theorem filterMap_withoutRollbacks {p : Entry → Option β}
    (hp : ∀ t e, e.id = rollbackId → p (.emitted t e) = none) (es : List Entry) :
    (withoutRollbacks es).filterMap p = es.filterMap p := by
  fun_induction withoutRollbacks es with
  | case1 id t e es he ih => simp only [List.filterMap_cons, hp t e he, ih]
  | case2 id t e es he ih => simp only [List.filterMap_cons, ih]
  | case3 x es hx ih => simp only [List.filterMap_cons, ih]
  | case4 => rfl

theorem alike_query? {x x' : Entry} (h : x.Alike x') : x.query? = x'.query? := by
  cases h <;> rfl

theorem alike_queries {es es' : List Entry} (h : List.Forall₂ Entry.Alike es es') :
    es.filterMap Entry.query? = es'.filterMap Entry.query? := by
  induction h with
  | nil => rfl
  | cons hx _ ih => rw [List.filterMap_cons, List.filterMap_cons, alike_query? hx, ih]

/-- Is an event shown under the id of the notice of a rollback? -/
def Entry.isRollback : Entry → Bool
  | .emitted _ e => e.id == rollbackId
  | _ => false

theorem alike_isRollback {x x' : Entry} (h : x.Alike x') : x.isRollback = x'.isRollback := by
  cases h with
  | emitted t he => rw [Entry.isRollback, Entry.isRollback, he.id_eq]
  | _ => rfl

/-- Journals that are alike without the notices are so without all events under their id. -/
theorem alike_filter {es es' : List Entry}
    (h : List.Forall₂ Entry.Alike (withoutRollbacks es) (withoutRollbacks es')) :
    List.Forall₂ Entry.Alike (es.filter fun x => !x.isRollback)
      (es'.filter fun x => !x.isRollback) := by
  have hguard : ∀ t e, e.id = rollbackId →
      Option.guard (fun x : Entry => !x.isRollback) (.emitted t e) = none := by
    intro t e he
    simp [Option.guard, Entry.isRollback, he]
  rw [← List.filterMap_eq_filter, ← filterMap_withoutRollbacks hguard es,
    ← filterMap_withoutRollbacks hguard es', List.filterMap_eq_filter]
  refine List.rel_filter (fun x x' hx => ?_) h
  show (!x.isRollback) = true ↔ (!x'.isRollback) = true
  rw [alike_isRollback hx]

/-! ## Ticks -/

/-- Actions that differ in telling of a rollback at most. -/
inductive Action.Alike : Action → Action → Prop
  | same (a : Action) : Alike a a
  | emit {e e' : Event} : e.Alike e' → Alike (.emit e) (.emit e')
  | polled (tasks active : Nat) (b b' : Bool) :
      Alike (.note (.polled tasks active b)) (.note (.polled tasks active b'))

theorem Action.Alike.span_eq {a a' : Action} (h : a.Alike a') : a.span = a'.span := by
  cases h <;> rfl

/-- Verdicts that differ in the rollback that a session remembers at most. -/
inductive Verdict.Alike : Verdict → Verdict → Prop
  | same (v : Verdict) : Alike v v
  | goOn (w : Watch) (b : Bool) : Alike (.goOn w) (.goOn { w with rollback := b })

structure Tick.Alike (t t' : Tick) : Prop where
  actions : List.Forall₂ Action.Alike t.actions t'.actions
  verdict : t.verdict.Alike t'.verdict

theorem actions_alike_refl (as : List Action) : List.Forall₂ Action.Alike as as :=
  List.forall₂_same.2 fun a _ => .same a

theorem Tick.Alike.after {t t' : Tick} (h : t.Alike t') (as : List Action) :
    (t.after as).Alike (t'.after as) where
  actions := List.rel_append (actions_alike_refl as) h.actions
  verdict := h.verdict

theorem Reading.ask_alike {r : Reading α} {q : Request} {next next' : α → Tick}
    (h : ∀ a, (next a).Alike (next' a)) : (r.ask q next).Alike (r.ask q next') := by
  unfold Reading.ask
  split
  · exact ⟨actions_alike_refl _, .same _⟩
  · exact ⟨actions_alike_refl _, .same _⟩
  · exact (h _).after _

theorem announce_alike (w : Watch) (b : Bool) (id : String) (converged : Bool) (now lag : Nat) :
    (w.announce id converged now lag).Alike
      (({ w with rollback := b } : Watch).announce id converged now lag) := by
  cases converged with
  | true => exact ⟨actions_alike_refl _, .goOn _ b⟩
  | false => exact ⟨actions_alike_refl _, .goOn _ b⟩

theorem render_alike (w : Watch) (b : Bool) (id : String) (service : Service)
    (status : Option UpdateStatus) (u : Updater) (tasks : List Task) (nodes : List Node)
    (now lag : Nat) : (w.render id service u tasks nodes now lag).Alike
      (({ w with rollback := b } : Watch).render id { service with updateStatus := status } u tasks
        nodes now lag) := by
  have hplans := u.update?_alike service ⟨tasks, activeNodes nodes, w.rollback⟩ b status
  have hpolled := Action.Alike.polled tasks.length (activeNodes nodes).length w.rollback b
  unfold Watch.render
  dsimp only at hplans ⊢
  generalize u.update? service ⟨tasks, activeNodes nodes, w.rollback⟩ = plan at hplans ⊢
  generalize u.update? { service with updateStatus := status } ⟨tasks, activeNodes nodes, b⟩ = plan'
    at hplans ⊢
  cases hplans with
  | none => exact ⟨.cons hpolled .nil, .same _⟩
  | @some p p' hp =>
    have hshown : List.Forall₂ Action.Alike (p.events.map .emit) (p'.events.map .emit) :=
      List.rel_map (fun _ _ => .emit) hp.events
    have htold := announce_alike { w with updater := some p.final } b id p.converged now lag
    simp only [← hp.final, ← hp.converged, ← hp.tally]
    refine ⟨List.rel_append ?_ htold.actions, htold.verdict⟩
    exact List.rel_append (List.rel_append (List.rel_append (.cons hpolled .nil) hshown)
      (actions_alike_refl _)) (actions_alike_refl _)

theorem poll_alike (w : Watch) (b : Bool) (id : String) (frame : Frame) (service : Service)
    (f : Option UpdateStatus → Option UpdateStatus) (u : Updater) (now : Nat) :
    (w.poll id frame service u now).Alike (({ w with rollback := b } : Watch).poll id
      (frame.retold f) (service.retold f) u now) :=
  Reading.ask_alike fun _ => Reading.ask_alike fun _ => render_alike ..

/-! ## The update status -/

/-- At most the notice of a rollback. -/
def IsNotice (as : List Action) : Prop :=
  as = [] ∨ ∃ message, as = [.emit (.act rollbackId message)]

/-- Actions behind the read of the service and the notice of a rollback. -/
structure IsLater (as : List Action) : Prop where
  reads : ∀ id, .ask (.service id) ∉ as
  first : ∀ now t e es, entriesOf (deedsFrom now as) = .emitted t e :: es → e.id ≠ rollbackId

theorem isLater_nil : IsLater [] := ⟨by simp, nofun⟩

theorem isLater_stall : IsLater [.stall] := ⟨by simp, nofun⟩

theorem isLater_note (n : Note) : IsLater [.note n] := ⟨by simp, nofun⟩

theorem isLater_ask {as : List Action} (ha : ∀ id, .ask (.service id) ∉ as) {q : Request}
    (hq : ∀ id, q ≠ .service id) : IsLater (.ask q :: as) := by
  refine ⟨fun id => ?_, nofun⟩
  rw [List.mem_cons, not_or]
  exact ⟨by simpa using (hq id).symm, ha id⟩

theorem isLater_converged (id : String) :
    IsLater [.emit convergedNotice, .note (.converged id)] := by
  refine ⟨by simp, fun now t e es h => ?_⟩
  obtain ⟨-, rfl⟩ := Entry.emitted.inj (List.cons.inj h).1
  decide

/-- Two ticks that differ in the notice of a rollback, and in telling of it, behind the same
actions. -/
inductive Tick.Abreast (front : List Action) : Tick → Tick → Prop
  | mk {n n' rest rest' : List Action} {v v' : Verdict} : IsNotice n → IsNotice n' →
      IsLater rest → IsLater rest' → List.Forall₂ Action.Alike rest rest' → v.Alike v' →
      Abreast front ⟨front ++ (n ++ rest), v⟩ ⟨front ++ (n' ++ rest'), v'⟩

theorem Tick.Abreast.after {t t' : Tick} (h : Tick.Abreast [] t t') (as : List Action) :
    Tick.Abreast as (t.after as) (t'.after as) := by
  cases h with
  | @mk n n' rest rest' v v' hn hn' hr hr' halike hv =>
    show Tick.Abreast as ⟨as ++ (n ++ rest), v⟩ ⟨as ++ (n' ++ rest'), v'⟩
    exact .mk hn hn' hr hr' halike hv

theorem Tick.Alike.abreast {t t' : Tick} (h : t.Alike t') {n n' : List Action} (hn : IsNotice n)
    (hn' : IsNotice n') (ht : IsLater t.actions) (ht' : IsLater t'.actions) :
    Tick.Abreast [] (t.after n) (t'.after n') := by
  show Tick.Abreast [] ⟨[] ++ (n ++ t.actions), t.verdict⟩ ⟨[] ++ (n' ++ t'.actions), t'.verdict⟩
  exact .mk hn hn' ht ht' h.actions h.verdict

theorem Reading.ask_later {r : Reading α} {q : Request} {next : α → Tick}
    (hq : ∀ id, q ≠ .service id) (h : ∀ a id, .ask (.service id) ∉ (next a).actions) :
    IsLater (r.ask q next).actions := by
  unfold Reading.ask
  split
  · exact isLater_ask (by simp) hq
  · exact isLater_ask (by simp) hq
  · rename_i a _
    exact isLater_ask (by simpa using h a) hq

theorem poll_later (w : Watch) (id : String) (frame : Frame) (service : Service) (u : Updater)
    (now : Nat) : IsLater (w.poll id frame service u now).actions := by
  refine Reading.ask_later (by simp) fun tasks => ?_
  refine (Reading.ask_later (by simp) fun nodes id hmem => ?_).reads
  exact List.countP_eq_zero.1 (asides_ask (render_asides ..) .service) _ hmem rfl

/-- An ongoing status has a session go on, and show a notice at most. -/
theorem follow_ongoing (w : Watch) (id : String) {status : Option UpdateStatus}
    (hs : isOngoing status = true) :
    ∃ n b, IsNotice n ∧ w.follow id status = ⟨n, .goOn { w with rollback := b }⟩ := by
  unfold isOngoing at hs
  split at hs
  · exact ⟨[], w.rollback, .inl rfl, rfl⟩
  · exact ⟨[], false, .inl rfl, rfl⟩
  · rename_i message
    refine ⟨_, true, ?_, rfl⟩
    split
    · exact .inr ⟨message, rfl⟩
    · exact .inl rfl
  · exact ⟨[], w.rollback, .inl rfl, rfl⟩
  · cases hs

/-- Any other status is followed alike, whether a rollback is under way or not. -/
theorem follow_other (w : Watch) (b : Bool) (id : String) {status : Option UpdateStatus}
    (hs : isOngoing status = false) :
    (w.follow id status = ⟨[], .goOn w⟩ ∧
        ({ w with rollback := b } : Watch).follow id status =
          ⟨[], .goOn { w with rollback := b }⟩) ∨
      ∃ as v, w.follow id status = ⟨as, v⟩ ∧
        ({ w with rollback := b } : Watch).follow id status = ⟨as, v⟩ ∧ IsLater as ∧
        ∀ w', v ≠ .goOn w' := by
  cases status with
  | none => cases hs
  | some status =>
    obtain ⟨state, message⟩ := status
    have hsame : ({ w with rollback := b } : Watch).isConverged = w.isConverged := rfl
    cases state with
    | completed =>
      simp only [Watch.follow, hsame]
      cases w.isConverged with
      | true => exact .inr ⟨_, _, rfl, rfl, isLater_note _, nofun⟩
      | false => exact .inl ⟨rfl, rfl⟩
    | paused => exact .inr ⟨_, _, rfl, rfl, isLater_nil, nofun⟩
    | rollbackPaused => exact .inr ⟨_, _, rfl, rfl, isLater_nil, nofun⟩
    | rollbackCompleted =>
      simp only [Watch.follow, hsame]
      cases w.isConverged with
      | true => exact .inr ⟨_, _, rfl, rfl, isLater_nil, nofun⟩
      | false => exact .inr ⟨_, _, rfl, rfl, isLater_nil, nofun⟩
    | _ => cases hs

/-! ## Ticks in step -/

/-- What a tick does once it has followed the update status. -/
def Watch.goOn (w : Watch) (id : String) (frame : Frame) (service : Service) (u : Updater)
    (now : Nat) : Tick :=
  if w.isStable now then ⟨[.emit convergedNotice, .note (.converged id)], .finish⟩
  else w.poll id frame service u now

theorem goOn_alike (w : Watch) (b : Bool) (id : String) (frame : Frame) (service : Service)
    (f : Option UpdateStatus → Option UpdateStatus) (u : Updater) (now : Nat) :
    (w.goOn id frame service u now).Alike (({ w with rollback := b } : Watch).goOn id
      (frame.retold f) (service.retold f) u now) := by
  have hstable : ({ w with rollback := b } : Watch).isStable now = w.isStable now := rfl
  unfold Watch.goOn
  rw [hstable]
  split
  · exact ⟨actions_alike_refl _, .same _⟩
  · exact poll_alike ..

theorem goOn_later (w : Watch) (id : String) (frame : Frame) (service : Service) (u : Updater)
    (now : Nat) : IsLater (w.goOn id frame service u now).actions := by
  unfold Watch.goOn
  split
  · exact isLater_converged id
  · exact poll_later ..

/-- Is a status replaced at most by another one with which a session goes on, as with this one? -/
def KeepsOngoing (f : Option UpdateStatus → Option UpdateStatus) : Prop :=
  ∀ status, f status = status ∨ isOngoing status = true ∧ isOngoing (f status) = true

variable {f : Option UpdateStatus → Option UpdateStatus}

theorem follow_abreast (hf : KeepsOngoing f) (w : Watch) (b : Bool) (id : String)
    (status : Option UpdateStatus) :
    (∃ n n' b₁ b₂, IsNotice n ∧ IsNotice n' ∧
        w.follow id status = ⟨n, .goOn { w with rollback := b₁ }⟩ ∧
        ({ w with rollback := b } : Watch).follow id (f status) =
          ⟨n', .goOn { w with rollback := b₂ }⟩) ∨
      ∃ as v, w.follow id status = ⟨as, v⟩ ∧
        ({ w with rollback := b } : Watch).follow id (f status) = ⟨as, v⟩ ∧ IsLater as ∧
        ∀ w', v ≠ .goOn w' := by
  cases hs : isOngoing status with
  | true =>
    have hs' : isOngoing (f status) = true := 
      (hf status).elim (fun h => (congrArg isOngoing h).trans hs) And.right
    obtain ⟨n, b₁, hn, hfollow⟩ := follow_ongoing w id hs
    obtain ⟨n', b₂, hn', hfollow'⟩ := follow_ongoing { w with rollback := b } id hs'
    exact .inl ⟨n, n', b₁, b₂, hn, hn', hfollow, hfollow'⟩
  | false =>
    have hsame : f status = status :=
      (hf status).resolve_right fun h => Bool.noConfusion (hs.symm.trans h.1)
    rw [hsame]
    exact (follow_other w b id hs).imp_left fun ⟨hgo, hgo'⟩ =>
      ⟨[], [], w.rollback, b, .inl rfl, .inl rfl, hgo, hgo'⟩

theorem Reading.ask_map (r : Reading α) (g : α → β) (q : Request) (next : β → Tick) :
    (r.map g).ask q next = r.ask q fun a => next (g a) := by
  unfold Reading.ask Reading.map
  cases r.answer with
  | none => rfl
  | some answer => cases answer <;> rfl

theorem Reading.ask_abreast {r : Reading α} {q : Request} {next next' : α → Tick}
    (h : ∀ a, Tick.Abreast [] (next a) (next' a)) :
    Tick.Abreast [.ask q, .wait r.delay] (r.ask q next) (r.ask q next') := by
  unfold Reading.ask
  split
  · exact .mk (.inl rfl) (.inl rfl) isLater_stall isLater_stall (actions_alike_refl _) (.same _)
  · exact .mk (.inl rfl) (.inl rfl) isLater_nil isLater_nil .nil (.same _)
  · exact (h _).after _

/-- A tick with another ongoing status is abreast of the one with the status that it replaces. -/
theorem tick_abreast (hf : KeepsOngoing f) (w : Watch) (b : Bool) (id : String) (frame : Frame)
    (now : Nat) : Tick.Abreast (frame.reading id) (w.tick id frame now)
      (({ w with rollback := b } : Watch).tick id (frame.retold f) now) := by
  have hservice : (frame.retold f).service = frame.service.map (Service.retold f) := rfl
  unfold Watch.tick
  rw [hservice, Reading.ask_map]
  refine Reading.ask_abreast fun service => ?_
  have hupdater : (({ w with rollback := b } : Watch).observe (service.retold f)).updaterFor?
      (service.retold f) = (w.observe service).updaterFor? service := rfl
  have hfollow := follow_abreast hf (w.observe service) b id service.updateStatus
  dsimp only
  rw [hupdater]
  cases (w.observe service).updaterFor? service with
  | none => exact .mk (.inl rfl) (.inl rfl) isLater_nil isLater_nil .nil (.same _)
  | some u =>
    have hfollow' : (({ w with rollback := b } : Watch).observe (service.retold f)).follow id
        (service.retold f).updateStatus =
          ({ w.observe service with rollback := b } : Watch).follow id
            (f service.updateStatus) := rfl
    dsimp only
    rw [hfollow']
    rcases hfollow with ⟨n, n', b₁, b₂, hn, hn', hgo, hgo'⟩ | ⟨as, v, hend, hend', has, hv⟩
    · rw [hgo, hgo']
      exact (goOn_alike { w.observe service with rollback := b₁ } b₂ id frame service f u
        (now + frame.service.delay)).abreast hn hn' (goOn_later ..) (goOn_later ..)
    · rw [hend, hend']
      cases v with
      | goOn w' => exact absurd rfl (hv w')
      | _ => exact .mk (.inl rfl) (.inl rfl) has has (actions_alike_refl _) (.same _)

/-! ## What ticks in step tell -/

/-- Deeds at the same time that differ in telling of a rollback at most. -/
structure Deed.Alike (d d' : Deed) : Prop where
  time : d.time = d'.time
  action : d.action.Alike d'.action

theorem entry?_alike {d d' : Deed} (h : d.Alike d') :
    Option.Rel Entry.Alike d.entry? d'.entry? := by
  obtain ⟨now, a⟩ := d
  obtain ⟨now', a'⟩ := d'
  obtain ⟨rfl, ha⟩ : now = now' ∧ a.Alike a' := ⟨h.time, h.action⟩
  cases ha with
  | same a =>
    cases Deed.entry? ⟨now, a⟩ with
    | none => exact .none
    | some x => exact .some (.same x)
  | emit he => exact .some (.emitted now he)
  | polled tasks active b b' => exact .some (.polled tasks active b b')

theorem deeds_alike {as as' : List Action} (h : List.Forall₂ Action.Alike as as') (now : Nat) :
    List.Forall₂ Deed.Alike (deedsFrom now as) (deedsFrom now as') ∧
      timeAfter now as = timeAfter now as' := by
  induction h generalizing now with
  | nil => exact ⟨.nil, rfl⟩
  | @cons a a' as as' ha _ ih =>
    obtain ⟨hdeeds, htime⟩ := ih (now + a.span)
    rw [timeAfter, timeAfter, deedsFrom, deedsFrom, ← ha.span_eq]
    exact ⟨.cons ⟨rfl, ha⟩ hdeeds, htime⟩

theorem entries_alike {as as' : List Action} (h : List.Forall₂ Action.Alike as as') (now : Nat) :
    List.Forall₂ Entry.Alike (entriesOf (deedsFrom now as)) (entriesOf (deedsFrom now as')) :=
  List.rel_filterMap (@entry?_alike) (deeds_alike h now).1

theorem withoutRollbacks_asked {es : List Entry} (h : ∀ id, .asked (.service id) ∉ es)
    (hfirst : ∀ t e rest, es = .emitted t e :: rest → e.id ≠ rollbackId) (id : String) :
    withoutRollbacks (.asked (.service id) :: es) = .asked (.service id) :: es := by
  cases es with
  | nil => rfl
  | cons x es =>
    have hes := withoutRollbacks_later fun id hmem => h id (List.mem_cons_of_mem x hmem)
    by_cases hx : ∃ t e, x = .emitted t e
    · obtain ⟨t, e, rfl⟩ := hx
      rw [withoutRollbacks, if_neg (hfirst t e es rfl), hes]
    · rw [withoutRollbacks, withoutRollbacks_later h]
      rintro id' t e rest - heq
      exact hx ⟨t, e, (List.cons.inj heq).1⟩

/-- A tick without the notice of a rollback. -/
theorem withoutRollbacks_tick {n rest : List Action} (hn : IsNotice n) (hrest : IsLater rest)
    (id : String) (now delay : Nat) :
    withoutRollbacks
        (entriesOf (deedsFrom now ([.ask (.service id), .wait delay] ++ (n ++ rest)))) =
      .asked (.service id) :: entriesOf (deedsFrom (now + delay) rest) := by
  have hread : ∀ id, .asked (.service id) ∉ entriesOf (deedsFrom (now + delay) rest) := by
    intro id hmem
    obtain ⟨a, ha, t, he⟩ := action_of_entry hmem
    cases a <;> cases he
    exact hrest.reads id ha
  rcases hn with rfl | ⟨message, rfl⟩
  · exact withoutRollbacks_asked hread (hrest.first (now + delay)) id
  · show withoutRollbacks (.asked (.service id) ::
      .emitted (now + delay) (.act rollbackId message) ::
      entriesOf (deedsFrom (now + delay) rest)) = _
    have hid : (Event.act rollbackId message).id = rollbackId := rfl
    rw [withoutRollbacks, if_pos hid, withoutRollbacks_later hread]

theorem Tick.Abreast.entries {t t' : Tick} {id : String} {delay : Nat}
    (h : Tick.Abreast [.ask (.service id), .wait delay] t t') (now : Nat) :
    timeAfter now t.actions = timeAfter now t'.actions ∧
      List.Forall₂ Entry.Alike (withoutRollbacks (entriesOf (deedsFrom now t.actions)))
        (withoutRollbacks (entriesOf (deedsFrom now t'.actions))) := by
  cases h with
  | @mk n n' rest rest' v v' hn hn' hrest hrest' halike hv =>
    have hentries := entries_alike halike (now + delay)
    have htime := (deeds_alike halike (now + delay)).2
    have hnotice : ∀ n, IsNotice n → timeAfter (now + delay) n = now + delay := by
      rintro n (rfl | ⟨message, rfl⟩) <;> rfl
    refine ⟨?_, ?_⟩
    · show timeAfter (now + delay) (n ++ rest) = timeAfter (now + delay) (n' ++ rest')
      rw [timeAfter_append, timeAfter_append, hnotice n hn, hnotice n' hn', htime]
    · rw [withoutRollbacks_tick hn hrest, withoutRollbacks_tick hn' hrest']
      exact .cons (.same _) hentries

/-! ## Sessions in step -/

variable {o : Output σ} {new : σ} {o' : Output τ} {new' : τ} {r : Run σ} {r' : Run τ}

/-- Two runs at the same time that have told alike, but for the notices of rollbacks. Their outputs
took everything. -/
structure InStep (o : Output σ) (new : σ) (o' : Output τ) (new' : τ) (r : Run σ) (r' : Run τ) :
    Prop where
  now : r.now = r'.now
  log : List.Forall₂ Entry.Alike (withoutRollbacks r.log) (withoutRollbacks r'.log)
  did : ∃ past, Did o new none past r
  did' : ∃ past, Did o' new' none past r'

theorem InStep.tick (ho : o.TakesAll new) (ho' : o'.TakesAll new') (h : InStep o new o' new' r r')
    {t t' : Tick} {id : String} {delay : Nat}
    (ht : Tick.Abreast [.ask (.service id), .wait delay] t t')
    (hs : t.Sound) (hs' : t'.Sound) :
    ∃ r₁ r₁', r.actAll o none t.actions = (if t.verdict = .never then .stuck else .goOn, r₁) ∧
      r'.actAll o' none t'.actions = (if t'.verdict = .never then .stuck else .goOn, r₁') ∧
      InStep o new o' new' r₁ r₁' := by
  obtain ⟨past, hd⟩ := h.did
  obtain ⟨past', hd'⟩ := h.did'
  obtain ⟨r₁, hall, hnow, hd₁⟩ := hd.tick ho hs (stop?_none ..)
  obtain ⟨r₁', hall', hnow', hd₁'⟩ := hd'.tick ho' hs' (stop?_none ..)
  have hread : ∀ {t t' : Tick}, Tick.Abreast [.ask (.service id), .wait delay] t t' →
      ∀ now x e rest,
      entriesOf (deedsFrom now t.actions) ≠ .emitted x e :: rest ∧
        entriesOf (deedsFrom now t'.actions) ≠ .emitted x e :: rest := by
    intro t t' ht now x e rest
    cases ht
    exact ⟨nofun, nofun⟩
  obtain ⟨htime, hentries⟩ := ht.entries r.now
  refine ⟨r₁, r₁', hall, hall', ?_, ?_, ⟨_, hd₁⟩, _, hd₁'⟩
  · rw [hnow, hnow', htime, h.now]
  · have hlog := h.log
    rw [hd.log, hd'.log] at hlog
    rw [hd₁.log, hd₁'.log, entriesOf_append, entriesOf_append, ← h.now,
      withoutRollbacks_append fun x e rest => (hread ht r.now x e rest).1,
      withoutRollbacks_append fun x e rest => (hread ht r.now x e rest).2]
    exact List.rel_append hlog hentries

theorem InStep.pause (ho : o.TakesAll new) (ho' : o'.TakesAll new') (h : InStep o new o' new' r r')
    (interval : Nat) : ∃ r₁ r₁', r.act o none (.wait interval) = (.goOn, r₁) ∧
      r'.act o' none (.wait interval) = (.goOn, r₁') ∧ InStep o new o' new' r₁ r₁' := by
  obtain ⟨past, hd⟩ := h.did
  obtain ⟨past', hd'⟩ := h.did'
  have hwait : ∀ {past : List Deed} {now : Nat},
      entriesOf (past ++ [⟨now, .wait interval⟩]) = entriesOf past := by
    intro past now
    rw [entriesOf_append]
    exact List.append_nil _
  obtain ⟨r₁, hact, hnow, hd₁⟩ := hd.act ho (a := .wait interval) (by simp) rfl
  obtain ⟨r₁', hact', hnow', hd₁'⟩ := hd'.act ho' (a := .wait interval) (by simp) rfl
  refine ⟨r₁, r₁', hact, hact', by rw [hnow, hnow', h.now], ?_, ⟨_, hd₁⟩, _, hd₁'⟩
  rw [hd₁.log, hd₁'.log, hwait, hwait, ← hd.log, ← hd'.log]
  exact h.log

/-- Sessions stay in step while one follows a script and the other one the script retold. -/
theorem ticks_inStep {f : Nat → Option UpdateStatus → Option UpdateStatus}
    (hf : ∀ k, KeepsOngoing (f k)) (ho : o.TakesAll new) (ho' : o'.TakesAll new')
    (options : Options) (id : String) (script : Script) (count k : Nat) (w : Watch) (b : Bool)
    (h : InStep o new o' new' r r') :
    let own := ticks o options none id script count k w r
    let own' := ticks o' options none id (script.retold f) count k { w with rollback := b } r'
    own.1 = own'.1 ∧ InStep o new o' new' own.2 own'.2 := by
  induction count generalizing r r' k w b with
  | zero => exact ⟨rfl, h⟩
  | succ count ih =>
    have hi : r.interrupted = false ∧ r'.interrupted = false := by
      obtain ⟨past, hd⟩ := h.did
      obtain ⟨past', hd'⟩ := h.did'
      exact ⟨hd.interrupted, hd'.interrupted⟩
    have habreast := tick_abreast (hf k) w b id (script k) r.now
    have hs := w.tick_sound id (script k) r.now
    have hs' := ({ w with rollback := b } : Watch).tick_sound id (script.retold f k) r.now
    simp only [ticks_succ, hi.1, hi.2, Bool.false_eq_true, if_false, ← h.now]
    have hretold : script.retold f k = (script k).retold (f k) := rfl
    rw [hretold] at hs' ⊢
    generalize w.tick id (script k) r.now = t at habreast hs ⊢
    generalize ({ w with rollback := b } : Watch).tick id ((script k).retold (f k)) r.now = t'
      at habreast hs' ⊢
    obtain ⟨r₁, r₁', hall, hall', h₁⟩ := h.tick ho ho' habreast hs hs'
    rw [hall, hall']
    have hv : t.verdict.Alike t'.verdict := by
      cases habreast
      assumption
    obtain ⟨r₂, r₂', hact, hact', h₂⟩ := h₁.pause ho ho' options.interval
    generalize t.verdict = v at hv ⊢
    generalize t'.verdict = v' at hv ⊢
    cases hv with
    | goOn w₁ b₁ =>
      simp only [afterActions, hact, hact', reduceCtorEq, if_false]
      exact ih (k + 1) w₁ b₁ h₂
    | same =>
      cases v with
      | finish => exact ⟨rfl, h₁⟩
      | fail x => exact ⟨rfl, h₁⟩
      | never => exact ⟨rfl, h₁⟩
      | goOn w₁ =>
        simp only [afterActions, hact, hact', reduceCtorEq, if_false]
        exact ih (k + 1) w₁ w₁.rollback h₂

theorem finish_closed {own : Ending × Run σ} (hc : (o.close own.2.output).1 = .ok ()) :
    (finish o own).1 = own.1 ∧ (finish o own).2.now = own.2.now := by
  obtain ⟨e, r⟩ := own
  cases e with
  | unfinished => exact ⟨rfl, rfl⟩
  | done result =>
    refine ⟨?_, rfl⟩
    cases result <;> simp [finish, hc]

/-- A rollback is shown, and changes nothing else. Two sessions without an interruption, whose
outputs take everything, may have their scripts differ at any ticks in an update status with which a
session goes on: none, an update or a rollback under way, or one that is not known. They have the
same result at the same time and send the same queries; and but for the notices of rollbacks, their
journals tell the same at the same times, where the overall line may say that the update is rolled
back, and bars may run backwards. -/
theorem run_alike {f : Nat → Option UpdateStatus → Option UpdateStatus}
    (hf : ∀ k, KeepsOngoing (f k)) (ho : o.TakesAll new) (hc : o.ClosesAlways new)
    (ho' : o'.TakesAll new') (hc' : o'.ClosesAlways new') (options : Options) (id : String)
    (script : Script) (count : Nat) :
    let whole := run o new options none id script count
    let whole' := run o' new' options none id (script.retold f) count
    whole.1 = whole'.1 ∧ whole.2.now = whole'.2.now ∧ whole.2.queries = whole'.2.queries ∧
      List.Forall₂ Entry.Alike (withoutRollbacks whole.2.log) (withoutRollbacks whole'.2.log) ∧
      List.Forall₂ Entry.Alike (whole.2.log.filter fun x => !x.isRollback)
        (whole'.2.log.filter fun x => !x.isRollback) := by
  intro whole whole'
  have hbegin : InStep o new o' new' ((Run.begin new none).record (.noted (.watching id)))
      ((Run.begin new' none).record (.noted (.watching id))) :=
    ⟨rfl, .cons (.same _) .nil, ⟨[watching id], rfl, rfl, rfl, rfl⟩,
      [watching id], rfl, rfl, rfl, rfl⟩
  obtain ⟨hresult, hstep⟩ := ticks_inStep hf ho ho' options id script count 0
    (.start options.monitor) false hbegin
  have hclosed : (o.close (ownRun o new options none id script count).2.output).1 = .ok () := by
    obtain ⟨past, hd⟩ := hstep.did
    exact hc _ _ (hd.output ▸ fed_fedBy o new past)
  have hclosed' : (o'.close (ownRun o' new' options none id (script.retold f) count).2.output).1 =
      .ok () := by
    obtain ⟨past, hd⟩ := hstep.did'
    exact hc' _ _ (hd.output ▸ fed_fedBy o' new' past)
  obtain ⟨hend, hnow⟩ := finish_closed hclosed
  obtain ⟨hend', hnow'⟩ := finish_closed hclosed'
  have hlog : List.Forall₂ Entry.Alike (withoutRollbacks whole.2.log)
      (withoutRollbacks whole'.2.log) := by
    have hwhole := (finish_spec o (ownRun o new options none id script count)).1
    have hwhole' := (finish_spec o' (ownRun o' new' options none id (script.retold f) count)).1
    exact hwhole ▸ hwhole' ▸ hstep.log
  refine ⟨?_, ?_, ?_, hlog, alike_filter hlog⟩
  · exact hend.trans (hresult.trans hend'.symm)
  · exact hnow.trans (hstep.now.trans hnow'.symm)
  · rw [Run.queries, Run.queries, ← filterMap_withoutRollbacks fun _ _ _ => rfl,
      ← filterMap_withoutRollbacks (fun _ _ _ => rfl) whole'.2.log]
    exact alike_queries hlog

/-- One task that starts at the first tick, and runs since. -/
private def comingUp : Script := fun k =>
  ⟨.prompt ⟨"web", ⟨"web", .ofReplicas 1, none⟩, none⟩,
    .prompt [⟨"t", "web", "n", 1, .running, ⟨if k = 0 then .starting else .running, "", ""⟩⟩],
    .prompt [⟨"n", .ready⟩], 0⟩

/-- Any status with which a session goes on turns into a rollback under way. -/
private def rolledBack (status : Option UpdateStatus) : Option UpdateStatus :=
  if isOngoing status then some ⟨.rollbackStarted, "why"⟩ else status

/-- A service that comes up without a word about an update, and while it is rolled back. -/
theorem run_alike_during_rollback :
    let whole := run Output.recording .empty ⟨1, 9⟩ none "web" comingUp 4
    let whole' := run Output.discard () ⟨1, 9⟩ none "web" (comingUp.retold fun _ => rolledBack) 4
    ((∀ _ : Nat, KeepsOngoing rolledBack) ∧ Output.recording.TakesAll .empty ∧
      Output.recording.ClosesAlways .empty ∧ Output.discard.TakesAll () ∧
      Output.discard.ClosesAlways ()) ∧
    (whole.1 = whole'.1 ∧ whole.2.now = whole'.2.now ∧ whole.2.queries = whole'.2.queries ∧
      List.Forall₂ Entry.Alike (withoutRollbacks whole.2.log) (withoutRollbacks whole'.2.log) ∧
      List.Forall₂ Entry.Alike (whole.2.log.filter fun x => !x.isRollback)
        (whole'.2.log.filter fun x => !x.isRollback)) ∧
      .emitted 0 (.withBar "1/1" "starting " 8 9) ∈ whole.2.log ∧
      .emitted 0 (.act rollbackId "why") ∈ whole'.2.log ∧
      .emitted 0 (.withBar "1/1" "starting " 1 9) ∈ whole'.2.log := by
  have hf : ∀ _ : Nat, KeepsOngoing rolledBack := by
    intro _ status
    cases hs : isOngoing status with
    | true => exact .inr ⟨rfl, by simp only [rolledBack, hs, if_true]; rfl⟩
    | false => exact .inl (by simp only [rolledBack, hs, Bool.false_eq_true, if_false])
  have ho : Output.recording.TakesAll .empty := fun _ _ _ _ => rfl
  have hc : Output.recording.ClosesAlways .empty := fun _ _ _ => rfl
  have ho' : Output.discard.TakesAll () := fun _ _ _ _ => rfl
  have hc' : Output.discard.ClosesAlways () := fun _ _ _ => rfl
  refine ⟨⟨hf, ho, hc, ho', hc'⟩, run_alike hf ho hc ho' hc' ⟨1, 9⟩ "web" comingUp 4, ?_⟩
  decide +kernel

end Session
end Rollout
