import Rollout.Proofs.Session.Passage

/-!
The queries of a session. A tick sends them in a fixed order and ends with the first that is
answered with an error (`Watch.tick_plays`), and so does a run that carries its actions out
(`Plays.played`).
-/

namespace Rollout.Session

/-! ## Queries and their replies -/

/-- The request that a session sends after `n` others: the service that it watches is asked for by
its id, and of the tasks only the current ones of that service. -/
def requestAt (id : String) (n : Nat) : Request :=
  match n % 3 with
  | 0 => .service id
  | 1 => .tasks ⟨id, true⟩
  | _ => .nodes

/-- A reading with another value in its answer. -/
def Reading.map (f : α → β) (r : Reading α) : Reading β :=
  ⟨r.delay, r.answer.map fun answer => answer.map f⟩

/-- What becomes of a query, without the value that it is answered with. -/
def Reading.reply (r : Reading α) : Reading Unit := r.map fun _ => ()

/-- What becomes of the query that a session sends after `n` others. -/
def Script.replyAt (script : Script) (n : Nat) : Reading Unit :=
  match n % 3 with
  | 0 => (script (n / 3)).service.reply
  | 1 => (script (n / 3)).tasks.reply
  | _ => (script (n / 3)).nodes.reply

/-- The error that a query is answered with, if it is answered with one. -/
def Reading.error? (r : Reading α) : Option EngineError :=
  match r.answer with
  | some (.error e) => some e
  | _ => none

def Entry.query? : Entry → Option Request
  | .asked request => some request
  | _ => none

/-- The requests that a session sent. -/
def Run.queries (r : Run σ) : List Request := r.log.filterMap Entry.query?

/-- Does an action leave the engine alone and take no time? -/
def Action.isLocal : Action → Bool
  | .ask _ => false
  | .wait _ => false
  | .stall => false
  | _ => true

theorem isLocal_of_isAside {as : List Action} (ha : as.all Action.isAside = true) :
    as.all Action.isLocal = true := by
  rw [List.all_eq_true] at ha ⊢
  intro a hmem
  have hside := ha a hmem
  cases a <;> first | rfl | cases hside

theorem isWait_of_isLocal {a : Action} (ha : a.isLocal = true) : a.isWait = false := by
  cases a <;> first | rfl | cases ha

theorem queries_local {as : List Action} (ha : as.all Action.isLocal = true) (now : Nat) :
    (entriesOf (deedsFrom now as)).filterMap Entry.query? = [] := by
  refine List.filterMap_eq_nil_iff.2 fun x hx => ?_
  obtain ⟨a, hmem, t, he⟩ := action_of_entry hx
  have hlocal := List.all_eq_true.1 ha a hmem
  cases a with
  | emit =>
    cases he
    rfl
  | note =>
    cases he
    rfl
  | settle => cases he
  | _ => cases hlocal

/-! ## How a tick deals with the engine -/

/-- A failure of the service, and not of the engine or the output. -/
def Failure.isOwn : Failure → Bool
  | .query _ => false
  | .output _ => false
  | _ => true

/-- The actions behind `n` queries, and what they end with. Each query waits for its reply; an error
ends the tick at once, and a tick that goes on has sent `last` queries. -/
inductive Plays (script : Script) (id : String) (last : Nat) : Nat → List Action → Verdict → Prop
  | ends {n : Nat} {v : Verdict} : (∀ w, v = .goOn w → n = last) →
      (∀ f, v = .fail f → f.isOwn = true) → Plays script id last n [] v
  | aside {n : Nat} {a : Action} {as : List Action} {v : Verdict} : a.isLocal = true →
      Plays script id last n as v → Plays script id last n (a :: as) v
  | stall {n : Nat} : Plays script id last n [.stall] .never
  | failed {n : Nat} {e : EngineError} : (script.replyAt n).error? = some e →
      Plays script id last n [.ask (requestAt id n), .wait (script.replyAt n).delay]
        (.fail (.query e))
  | answered {n : Nat} {as : List Action} {v : Verdict} : (script.replyAt n).error? = none →
      Plays script id last (n + 1) as v →
      Plays script id last n (.ask (requestAt id n) :: .wait (script.replyAt n).delay :: as) v

variable {script : Script} {id : String} {last n : Nat}

theorem Plays.asides {as bs : List Action} {v : Verdict} (h : Plays script id last n bs v)
    (ha : as.all Action.isLocal = true) : Plays script id last n (as ++ bs) v := by
  induction as with
  | nil => exact h
  | cons a as ih =>
    rw [List.all_cons, Bool.and_eq_true] at ha
    exact .aside ha.1 (ih ha.2)

theorem Plays.of_local {as : List Action} {v : Verdict} (ha : as.all Action.isLocal = true)
    (hv : ∀ w, v = .goOn w → n = last) (hf : ∀ f, v = .fail f → f.isOwn = true) :
    Plays script id last n as v := by
  simpa using (Plays.ends hv hf).asides ha

theorem Reading.ask_plays {r : Reading α} {q : Request} {next : α → Tick} (hq : requestAt id n = q)
    (hr : script.replyAt n = r.reply)
    (hnext : ∀ a, Plays script id last (n + 1) (next a).actions (next a).verdict) :
    Plays script id last n (r.ask q next).actions (r.ask q next).verdict := by
  subst hq
  have hdelay : r.delay = (script.replyAt n).delay := by rw [hr]; rfl
  unfold Reading.ask
  rw [hdelay]
  split
  · rename_i ha
    exact .answered (by simp [hr, Reading.error?, Reading.reply, Reading.map, ha]) .stall
  · rename_i e ha
    exact .failed (by simp [hr, Reading.error?, Reading.reply, Reading.map, ha, Except.map])
  · rename_i a ha
    refine .answered ?_ (hnext a)
    simp [hr, Reading.error?, Reading.reply, Reading.map, ha, Except.map]

theorem follow_fail {w : Watch} {id : String} {status : Option UpdateStatus} {f : Failure}
    (h : (w.follow id status).verdict = .fail f) : f.isOwn = true := by
  unfold Watch.follow at h
  repeat' split at h
  all_goals cases h
  all_goals rfl

theorem render_plays (w : Watch) (id : String) (service : Service) (u : Updater)
    (tasks : List Task) (nodes : List Node) (now lag : Nat) :
    Plays script id last last (w.render id service u tasks nodes now lag).actions
      (w.render id service u tasks nodes now lag).verdict := by
  refine .of_local (isLocal_of_isAside (render_asides ..)) (fun _ _ => rfl) fun f hf => ?_
  cases hp : u.update? service ⟨tasks, activeNodes nodes, w.rollback⟩ with
  | none =>
    rw [render_fails id now lag hp] at hf
    cases hf
    rfl
  | some plan =>
    obtain ⟨as, -, hr⟩ := render_goes id now lag hp
    rw [hr] at hf
    cases hf

theorem poll_plays (w : Watch) (id : String) (k : Nat) (service : Service) (u : Updater)
    (now : Nat) :
    Plays script id (3 * k + 3) (3 * k + 1) (w.poll id (script k) service u now).actions
      (w.poll id (script k) service u now).verdict := by
  have hdiv₁ : (3 * k + 1) / 3 = k := by omega
  have hdiv₂ : (3 * k + 2) / 3 = k := by omega
  have hmod₁ : (3 * k + 1) % 3 = 1 := by omega
  have hmod₂ : (3 * k + 2) % 3 = 2 := by omega
  refine Reading.ask_plays (by simp [requestAt, TaskFilter.current, hmod₁])
    (by simp [Script.replyAt, hmod₁, hdiv₁]) fun tasks => ?_
  refine Reading.ask_plays (by simp [requestAt, hmod₂])
    (by simp [Script.replyAt, hmod₂, hdiv₂]) fun nodes => ?_
  exact render_plays ..

/-- The tick numbered `k` sends its queries behind those of the ticks before. -/
theorem Watch.tick_plays (w : Watch) (id : String) (k now : Nat) :
    Plays script id (3 * k + 3) (3 * k) (w.tick id (script k) now).actions
      (w.tick id (script k) now).verdict := by
  have hdiv : 3 * k / 3 = k := by omega
  have hmod : 3 * k % 3 = 0 := by omega
  refine Reading.ask_plays (by simp [requestAt, hmod]) (by simp [Script.replyAt, hmod, hdiv])
    fun service => ?_
  dsimp only
  split
  · refine .ends nofun fun f hf => ?_
    cases hf
    rfl
  · have ha := isLocal_of_isAside (follow_asides (w.observe service) id service.updateStatus)
    split
    · rename_i w' hv
      refine Plays.asides ?_ ha
      split
      · exact .of_local rfl nofun nofun
      · exact poll_plays ..
    · rename_i hv
      exact .of_local ha (fun w' hw => absurd hw (hv w')) fun f => follow_fail

/-! ## What a run has asked -/

/-- A run that has sent `n` queries, none of which was answered with an error. -/
structure Answered (script : Script) (id : String) (n : Nat) (r : Run σ) : Prop where
  queries : r.queries = (List.range n).map (requestAt id)
  fine : ∀ i, i < n → (script.replyAt i).error? = none

/-- A run that was interrupted, at the latest before its last query was answered. -/
structure Abandoned (script : Script) (id : String) (n : Nat) (r : Run σ) : Prop where
  queries : r.queries = (List.range n).map (requestAt id)
  open_last : ∀ i x, i < n → (script.replyAt i).error? = some x →
    i + 1 = n ∧ 0 < (script.replyAt i).delay
  interrupted : r.interrupted = true

variable {o : Output σ} {m : Option Moment} {r r' : Run σ}

theorem Answered.abandoned (h : Answered script id n r) (hi : r.interrupted = true) :
    Abandoned script id n r where
  queries := h.queries
  open_last i x hin hx := by
    rw [h.fine i hin] at hx
    cases hx
  interrupted := hi

theorem Answered.next (h : Answered script id n r)
    (hq : r'.queries = (List.range (n + 1)).map (requestAt id))
    (hn : (script.replyAt n).error? = none) : Answered script id (n + 1) r' where
  queries := hq
  fine := Nat.forall_lt_succ_right.2 ⟨h.fine, hn⟩

theorem queries_append {es : List Entry} (hlog : r'.log = r.log ++ es) :
    r'.queries = r.queries ++ es.filterMap Entry.query? := by
  rw [Run.queries, hlog, List.filterMap_append]
  rfl

theorem Answered.of_local {now : Nat} {as : List Action} (h : Answered script id n r)
    (ha : as.all Action.isLocal = true)
    (hlog : r'.log = r.log ++ entriesOf (deedsFrom now as)) : Answered script id n r' where
  queries := by rw [queries_append hlog, queries_local ha, List.append_nil, h.queries]
  fine := h.fine

theorem Answered.of_log (h : Answered script id n r) (hlog : r'.log = r.log) :
    Answered script id n r' where
  queries := by rw [Run.queries, hlog, ← Run.queries, h.queries]
  fine := h.fine

theorem Abandoned.of_local {now : Nat} {as : List Action} (h : Abandoned script id n r)
    (ha : as.all Action.isLocal = true)
    (hlog : r'.log = r.log ++ entriesOf (deedsFrom now as)) (hi : r'.interrupted = true) :
    Abandoned script id n r' where
  queries := by rw [queries_append hlog, queries_local ha, List.append_nil, h.queries]
  open_last := h.open_last
  interrupted := hi

/-- A run whose last query was answered with an error, and which did nothing since. -/
structure Failed (script : Script) (id : String) (n : Nat) (e : EngineError) (r : Run σ) :
    Prop where
  queries : r.queries = (List.range (n + 1)).map (requestAt id)
  fine : ∀ i, i < n → (script.replyAt i).error? = none
  error : (script.replyAt n).error? = some e
  last : ∃ before, r.log = before ++ [.asked (requestAt id n)]

/-- A query is sent and waited for, and then the session goes on if it was not interrupted. -/
theorem actAll_query (o : Output σ) (m : Option Moment) (h : Answered script id n r)
    (as : List Action) :
    ∃ r', r'.queries = (List.range (n + 1)).map (requestAt id) ∧
      r'.log = r.log ++ [.asked (requestAt id n)] ∧
      let acted := r.actAll o m (.ask (requestAt id n) :: .wait (script.replyAt n).delay :: as)
      (acted = r'.actAll o m as ∨ acted = (.detach, r') ∧ Abandoned script id (n + 1) r') := by
  let asked := r.mark m (.asked (requestAt id n))
  have hasked : asked.log = r.log ++ [.asked (requestAt id n)] := (mark_spec r m _ (by simp)).1
  have hact : r.act o m (.ask (requestAt id n)) = (.goOn, asked) := rfl
  obtain ⟨hlog, -, hnext⟩ := wait_spec o m asked (script.replyAt n).delay
  rw [actAll_goOn hact]
  cases hwait : asked.act o m (.wait (script.replyAt n).delay) with
  | mk next r' =>
    rw [hwait] at hlog hnext
    have hlog' : r'.log = r.log ++ [.asked (requestAt id n)] := hlog.trans hasked
    have hqueries : r'.queries = (List.range (n + 1)).map (requestAt id) := by
      rw [queries_append hlog', h.queries, List.range_succ, List.map_append]
      rfl
    refine ⟨r', hqueries, hlog', ?_⟩
    rcases hnext with rfl | ⟨rfl, htime, hi⟩
    · exact .inl (actAll_goOn hwait as)
    · refine .inr ⟨actAll_stop hwait (by simp) as, hqueries, fun i x hin hx => ?_, hi⟩
      rcases Nat.lt_succ_iff_lt_or_eq.1 hin with hlt | rfl
      · rw [h.fine i hlt] at hx
        cases hx
      · exact ⟨rfl, htime⟩

/-- What comes of the actions of a tick. -/
inductive Played (script : Script) (id : String) (last : Nat) (v : Verdict) : Next × Run σ → Prop
  | on {n : Nat} {r : Run σ} : Answered script id n r → (∀ w, v = .goOn w → n = last) →
      (∀ f, v = .fail f → f.isOwn = true) → Played script id last v (.goOn, r)
  | failed {n : Nat} {e : EngineError} {r : Run σ} : Failed script id n e r → v = .fail (.query e) →
      Played script id last v (.goOn, r)
  | refused {n : Nat} {x : OutputError} {r : Run σ} : Answered script id n r →
      Played script id last v (.refused x, r)
  | left {n : Nat} {r : Run σ} : Abandoned script id n r → Played script id last v (.detach, r)
  | stuck {n : Nat} {r : Run σ} : Answered script id n r → Played script id last v (.stuck, r)

/-- A local action is carried out, or refused. -/
theorem Answered.act_local (h : Answered script id n r) {a : Action} (ha : a.isLocal = true) :
    ∃ next r', r.act o m a = (next, r') ∧ Answered script id n r' ∧
      (next = .goOn ∨ ∃ x, next = .refused x) := by
  have hcarried := act_carried o m r a
  cases hact : r.act o m a with
  | mk next r' =>
    have hall : [a].all Action.isLocal = true := by simpa using ha
    rw [hact] at hcarried
    refine ⟨next, r', rfl, ?_⟩
    cases hcarried with
    | through hlog _ => exact ⟨h.of_local hall hlog, .inl rfl⟩
    | refused has hlog =>
      obtain ⟨rfl, rfl⟩ := eq_of_single has
      exact ⟨h.of_local hall hlog, .inr ⟨_, rfl⟩⟩
    | left has hwait =>
      obtain ⟨-, rfl⟩ := eq_of_single has
      rw [isWait_of_isLocal ha] at hwait
      cases hwait
    | stuck has =>
      obtain ⟨-, rfl⟩ := eq_of_single has
      cases ha

theorem Plays.played {as : List Action} {v : Verdict} (h : Plays script id last n as v)
    (hr : Answered script id n r) : Played script id last v (r.actAll o m as) := by
  induction h generalizing r with
  | ends hlast hown => exact .on hr hlast hown
  | @aside n a as v ha _ ih =>
    obtain ⟨next, r', hact, hr', rfl | ⟨x, rfl⟩⟩ := hr.act_local (o := o) (m := m) ha
    · rw [actAll_goOn hact]
      exact ih hr'
    · rw [actAll_stop hact (by simp)]
      exact .refused hr'
  | stall =>
    have hcarried := act_carried o m r .stall
    rw [actAll_single]
    generalize r.act o m .stall = acted at hcarried
    cases hcarried with
    | through hlog _ => exact .on (hr.of_log (hlog.trans (List.append_nil _))) nofun nofun
    | refused has => cases (eq_of_single has).2
    | left has _ hlog hi =>
      obtain ⟨rfl, -⟩ := eq_of_single has
      exact .left ((hr.of_log (hlog.trans (List.append_nil _))).abandoned hi)
    | stuck has hlog =>
      obtain ⟨rfl, -⟩ := eq_of_single has
      exact .stuck (hr.of_log (hlog.trans (List.append_nil _)))
  | @failed n e herror =>
    obtain ⟨r', hq, hlog, hall | ⟨hall, hleft⟩⟩ := actAll_query o m hr []
    · rw [hall]
      exact .failed ⟨hq, hr.fine, herror, _, hlog⟩ rfl
    · rw [hall]
      exact .left hleft
  | @answered n as v hnone _ ih =>
    obtain ⟨r', hq, hlog, hall | ⟨hall, hleft⟩⟩ := actAll_query o m hr as
    · rw [hall]
      exact ih (hr.next hq hnone)
    · rw [hall]
      exact .left hleft

end Rollout.Session
