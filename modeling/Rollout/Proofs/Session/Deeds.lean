import Rollout.Session.Run

/-!
What a session does, as a list of deeds: actions with the times at which they begin. A run whose
output takes all events does one deed after the other, and its journal, its output and its last
verdict are told by them (`Did`). It leaves the list only where it waits when or after the moment
of its interruption comes (`Did.actAll`, `Did.actAll_stopped`).
-/

namespace Rollout

/-- What an output was given since it was new. It may have rested in between. -/
inductive Output.Fed (o : Output σ) (new : σ) : List Event → σ → Prop
  | new : Fed o new [] new
  | emit {es : List Event} {s : σ} (e : Event) :
      Fed o new es s → Fed o new (es ++ [e]) (o.emit s e).2
  | rest {es : List Event} {s : σ} : Fed o new es s → Fed o new es (o.rest s)

/-- No event is refused, whatever was emitted before. -/
def Output.TakesAll (o : Output σ) (new : σ) : Prop :=
  ∀ es s e, o.Fed new es s → (o.emit s e).1 = .ok ()

/-- Closing succeeds, whatever was emitted before. -/
def Output.ClosesAlways (o : Output σ) (new : σ) : Prop :=
  ∀ es s, o.Fed new es s → (o.close s).1 = .ok ()

/-- The output was given exactly these events, and after them it was closed, once. -/
def Output.ClosedAfter (o : Output σ) (new : σ) (es : List Event) (s : σ) : Prop :=
  ∃ s', o.Fed new es s' ∧ s = (o.close s').2

namespace Session

/-! ## Deeds -/

/-- An action with the time at which it begins. -/
structure Deed where
  time : Nat
  action : Action
  deriving Repr, DecidableEq

/-- The time that an action takes. -/
def Action.span : Action → Nat
  | .wait time => time
  | _ => 0

/-- Does an action send this query? -/
def Action.isAsk (q : Query) : Action → Bool
  | .ask request => Query.of request == q
  | _ => false

/-- Actions one after another, the first one at `now`. -/
def deedsFrom (now : Nat) : List Action → List Deed
  | [] => []
  | a :: as => ⟨now, a⟩ :: deedsFrom (now + a.span) as

/-- The time at which actions are over that begin at `now`. -/
def timeAfter (now : Nat) : List Action → Nat
  | [] => now
  | a :: as => timeAfter (now + a.span) as

def Deed.entry? : Deed → Option Entry
  | ⟨_, .ask request⟩ => some (.asked request)
  | ⟨time, .emit e⟩ => some (.emitted time e)
  | ⟨_, .note n⟩ => some (.noted n)
  | _ => none

def Deed.event? (d : Deed) : Option Event :=
  match d.action with
  | .emit e => some e
  | _ => none

/-- What a journal says of deeds. -/
def entriesOf (ds : List Deed) : List Entry := ds.filterMap Deed.entry?

def eventsOf (ds : List Deed) : List Event := ds.filterMap Deed.event?

/-- The verdict after a deed, where there was one before. -/
def Deed.settles (before : Bool) (d : Deed) : Bool :=
  match d.action with
  | .settle converged => converged
  | _ => before

/-- The verdict of the last update among deeds. -/
def lastVerdict (ds : List Deed) : Bool := ds.foldl Deed.settles false

/-- What a deed makes of an output. -/
def Deed.feed (o : Output σ) (s : σ) (d : Deed) : σ :=
  match d.action with
  | .emit e => (o.emit s e).2
  | .wait 0 => s
  | .wait _ => o.rest s
  | .stall => o.rest s
  | _ => s

def fedBy (o : Output σ) (new : σ) (ds : List Deed) : σ := ds.foldl (Deed.feed o) new

/-- The journal with the earliest entry first, without the mark of an interruption. -/
def Run.log (r : Run σ) : List Entry := (r.journal.filter (· ≠ .interrupted)).reverse

theorem deedsFrom_append (now : Nat) (as bs : List Action) :
    deedsFrom now (as ++ bs) = deedsFrom now as ++ deedsFrom (timeAfter now as) bs := by
  induction as generalizing now with
  | nil => rfl
  | cons a as ih => simp [deedsFrom, timeAfter, ih]

theorem timeAfter_append (now : Nat) (as bs : List Action) :
    timeAfter now (as ++ bs) = timeAfter (timeAfter now as) bs := by
  induction as generalizing now with
  | nil => rfl
  | cons a as ih => simp [timeAfter, ih]

theorem entriesOf_append (ds es : List Deed) :
    entriesOf (ds ++ es) = entriesOf ds ++ entriesOf es := List.filterMap_append

theorem eventsOf_append (ds es : List Deed) :
    eventsOf (ds ++ es) = eventsOf ds ++ eventsOf es := List.filterMap_append

private theorem entriesOf_cons (now : Nat) (a : Action) (as : List Action) :
    entriesOf (deedsFrom now (a :: as)) =
      entriesOf [⟨now, a⟩] ++ entriesOf (deedsFrom (now + a.span) as) := by
  rw [← entriesOf_append]
  rfl

/-- What the journal says of actions, it says of one of them. -/
theorem action_of_entry {now : Nat} {as : List Action} {x : Entry}
    (hx : x ∈ entriesOf (deedsFrom now as)) : ∃ a ∈ as, ∃ t, Deed.entry? ⟨t, a⟩ = some x := by
  induction as generalizing now with
  | nil => cases hx
  | cons a as ih =>
    rw [entriesOf_cons, List.mem_append] at hx
    rcases hx with hx | hx
    · obtain ⟨d, hd, he⟩ := List.mem_filterMap.1 hx
      obtain rfl := List.mem_singleton.1 hd
      exact ⟨a, List.mem_cons_self, now, he⟩
    · obtain ⟨b, hb, t, he⟩ := ih hx
      exact ⟨b, List.mem_cons_of_mem a hb, t, he⟩

/-- The journal counts the queries among actions. -/
theorem countP_deedsFrom (now : Nat) (as : List Action) (q : Query) :
    (entriesOf (deedsFrom now as)).countP (Entry.isAsked q) = as.countP (Action.isAsk q) := by
  induction as generalizing now with
  | nil => rfl
  | cons a as ih =>
    rw [entriesOf_cons, List.countP_append, ih, List.countP_cons, Nat.add_comm]
    cases a <;> simp [entriesOf, Deed.entry?, Entry.isAsked, Action.isAsk]

/-- The journal has the notes among actions. -/
theorem noted_mem_deedsFrom (now : Nat) (as : List Action) (n : Note) :
    .noted n ∈ entriesOf (deedsFrom now as) ↔ .note n ∈ as := by
  induction as generalizing now with
  | nil => simp [deedsFrom, entriesOf]
  | cons a as ih =>
    rw [entriesOf_cons, List.mem_append, ih, List.mem_cons]
    cases a <;> simp [entriesOf, Deed.entry?]

theorem lastVerdict_snoc (ds : List Deed) (d : Deed) :
    lastVerdict (ds ++ [d]) = d.settles (lastVerdict ds) := by
  simp [lastVerdict]

theorem fedBy_snoc (o : Output σ) (new : σ) (ds : List Deed) (d : Deed) :
    fedBy o new (ds ++ [d]) = d.feed o (fedBy o new ds) := by
  simp [fedBy]

private theorem fed_feed {o : Output σ} {new s : σ} {es : List Event} (d : Deed)
    (h : o.Fed new es s) : o.Fed new (es ++ eventsOf [d]) (d.feed o s) := by
  obtain ⟨time, a⟩ := d
  have hsilent : eventsOf [⟨time, a⟩] = [] → es ++ eventsOf [⟨time, a⟩] = es := by
    intro he
    rw [he, List.append_nil]
  cases a with
  | emit e => exact h.emit e
  | wait t =>
    rw [hsilent rfl]
    cases t with
    | zero => exact h
    | succ t => exact h.rest
  | stall =>
    rw [hsilent rfl]
    exact h.rest
  | ask q => rwa [hsilent rfl]
  | settle b => rwa [hsilent rfl]
  | note n => rwa [hsilent rfl]

/-- Deeds feed an output exactly the events among them, in their order. -/
theorem fed_deeds {o : Output σ} {new s : σ} {es : List Event} (ds : List Deed)
    (h : o.Fed new es s) : o.Fed new (es ++ eventsOf ds) (ds.foldl (Deed.feed o) s) := by
  induction ds generalizing es s with
  | nil => simpa [eventsOf] using h
  | cons d ds ih =>
    have hd := ih (fed_feed d h)
    rwa [List.append_assoc, ← eventsOf_append] at hd

theorem fed_fedBy (o : Output σ) (new : σ) (ds : List Deed) :
    o.Fed new (eventsOf ds) (fedBy o new ds) := fed_deeds ds .new

/-! ## Interruption -/

/-- A session notices an interruption only where it waits. -/
def Deed.isWait (d : Deed) : Bool :=
  match d.action with
  | .wait time => 0 < time
  | .stall => true
  | _ => false

/-- Does a deed last longer than till `t`? -/
def Deed.lastsPast (t : Nat) : Deed → Bool
  | ⟨now, .wait time⟩ => t < now + time
  | ⟨_, .stall⟩ => true
  | ⟨now, _⟩ => t < now

/-- Does a log show that the moment has come? Of a time it shows nothing. -/
def Moment.shownBy (log : List Entry) : Moment → Bool
  | .start => true
  | .query q n => 0 < n && n ≤ log.countP (Entry.isAsked q)
  | .event n => 0 < n && n ≤ log.countP Entry.isEmitted
  | .time _ => false

/-- Does the moment come before a deed is over, which follows on others? -/
def Moment.comesBy (m : Moment) (past : List Deed) (d : Deed) : Bool :=
  match m with
  | .time t => d.lastsPast t
  | m => m.shownBy (entriesOf past)

/-- Does the session wait with a deed when the moment comes or later? -/
def Moment.stops (m : Moment) (past : List Deed) (d : Deed) : Bool :=
  d.isWait && m.comesBy past d

/-- The time at which a session that waits since `now` notices its interruption. -/
def noticedAt (m : Option Moment) (now : Nat) : Nat :=
  match m with
  | some (.time t) => max now t
  | _ => now

/-- The deeds up to the first at which an interruption stops the session, and that one. -/
def stop? (m : Option Moment) (past : List Deed) : List Deed → Option (List Deed × Deed)
  | [] => none
  | d :: ds => if m.any (·.stops past d) then some (past, d) else stop? m (past ++ [d]) ds

theorem stop?_none (past ds : List Deed) : stop? none past ds = none := by
  induction ds generalizing past with
  | nil => rfl
  | cons d ds ih => simpa [stop?] using ih _

theorem stop?_append (m : Option Moment) (past ds es : List Deed) :
    stop? m past (ds ++ es) = (stop? m past ds).or (stop? m (past ++ ds) es) := by
  induction ds generalizing past with
  | nil => simp [stop?]
  | cons d ds ih =>
    simp only [List.cons_append, stop?]
    split
    · rfl
    · simp [ih]

/-! ## Runs that keep to their course -/

theorem log_record (r : Run σ) (e : Entry) (he : e ≠ .interrupted) :
    (r.record e).log = r.log ++ [e] := by
  simp [Run.log, Run.record, he]

theorem log_interrupt (r : Run σ) : r.interrupt.log = r.log := by
  simp [Run.log, Run.record, Run.interrupt]

theorem countP_journal (r : Run σ) (p : Entry → Bool) (hp : p .interrupted = false) :
    r.journal.countP p = r.log.countP p := by
  rw [Run.log, List.countP_reverse, List.countP_filter]
  apply List.countP_congr
  intro e _
  cases e <;> simp [hp]

/-- The n-th occurrence is the one at which the count gets to n. -/
private theorem reach_iff (n c : Nat) (b : Bool) :
    (decide (0 < n) && decide (n ≤ c + if b then 1 else 0)) =
      ((decide (0 < n) && decide (n ≤ c)) || (b && c + (if b then 1 else 0) == n)) := by
  cases b
  · simp
  · rw [Bool.eq_iff_iff]
    simp
    omega

theorem mark_spec (r : Run σ) (m : Option Moment) (e : Entry) (he : e ≠ .interrupted) :
    (r.mark m e).log = r.log ++ [e] ∧
    (r.mark m e).interrupted = (r.interrupted || (r.record e).hits e m) ∧
    (r.mark m e).now = r.now ∧ (r.mark m e).converged = r.converged ∧
    (r.mark m e).output = r.output := by
  have hlog := log_record r e he
  cases hh : (r.record e).hits e m with
  | true =>
    rw [Run.mark, if_pos hh]
    exact ⟨by rw [log_interrupt, hlog], by simp [Run.interrupt], rfl, rfl, rfl⟩
  | false =>
    rw [Run.mark, if_neg (by simp [hh])]
    exact ⟨hlog, by simp [Run.record], rfl, rfl, rfl⟩

private theorem shownBy_mark (r : Run σ) (m : Option Moment) (e : Entry) (he : e ≠ .interrupted) :
    m.any (Moment.shownBy (r.log ++ [e])) =
      (m.any (Moment.shownBy r.log) || (r.record e).hits e m) := by
  have hlog := log_record r e he
  cases m with
  | none => rfl
  | some m =>
    cases m with
    | start => rfl
    | time t => rfl
    | query q n =>
      have hc : (r.record e).calls q = r.log.countP (Entry.isAsked q) +
          if Entry.isAsked q e then 1 else 0 := by
        rw [Run.calls, countP_journal _ _ (by simp [Entry.isAsked]), hlog]
        simp
      simp only [Option.any_some, Moment.shownBy, Run.hits, hc, List.countP_append,
        List.countP_singleton]
      exact reach_iff _ _ _
    | event n =>
      have hc : (r.record e).emissions = r.log.countP Entry.isEmitted +
          if Entry.isEmitted e then 1 else 0 := by
        rw [Run.emissions, countP_journal _ _ (by simp [Entry.isEmitted]), hlog]
        simp
      simp only [Option.any_some, Moment.shownBy, Run.hits, hc, List.countP_append,
        List.countP_singleton]
      exact reach_iff _ _ _

/-- A run that has done these deeds and was not stopped. -/
structure Did (o : Output σ) (new : σ) (m : Option Moment) (past : List Deed) (r : Run σ) :
    Prop where
  log : r.log = entriesOf past
  output : r.output = fedBy o new past
  converged : r.converged = lastVerdict past
  interrupted : r.interrupted = m.any (Moment.shownBy (entriesOf past))

private theorem mark_noted (r : Run σ) (m : Option Moment) (n : Note) :
    r.mark m (.noted n) = r.record (.noted n) := by
  cases m with
  | none => rfl
  | some m => cases m <;> simp [Run.mark, Run.hits, Entry.isAsked, Entry.isEmitted]

variable {o : Output σ} {new : σ} {m : Option Moment} {past : List Deed} {r : Run σ}

/-- A deed that the journal tells of, once its output is fed. -/
private theorem Did.mark (h : Did o new m past r) (d : Deed) {e : Entry} (he : e ≠ .interrupted)
    (hd : d.entry? = some e) (hv : d.settles (lastVerdict past) = lastVerdict past) :
    Did o new m (past ++ [d]) { r.mark m e with output := d.feed o r.output } := by
  obtain ⟨hlog, hint, -, hconv, -⟩ := mark_spec r m e he
  have hent : entriesOf (past ++ [d]) = r.log ++ [e] := by
    rw [entriesOf_append, h.log]
    simp [entriesOf, hd]
  refine ⟨hlog.trans hent.symm, ?_, ?_, ?_⟩
  · rw [fedBy_snoc, ← h.output]
  · rw [lastVerdict_snoc, hv]
    exact hconv.trans h.converged
  · show (r.mark m e).interrupted = _
    rw [hint, hent, shownBy_mark r m e he, h.interrupted, h.log]

/-- A deed that leaves no trace in the journal. -/
theorem Did.silent (h : Did o new m past r) (d : Deed) (hd : d.entry? = none) {r' : Run σ}
    (hj : r'.journal = r.journal) (hs : r'.output = d.feed o r.output)
    (hv : r'.converged = d.settles r.converged) (hi : r'.interrupted = r.interrupted) :
    Did o new m (past ++ [d]) r' := by
  have hent : entriesOf (past ++ [d]) = entriesOf past := by
    rw [entriesOf_append]
    simp [entriesOf, hd]
  refine ⟨?_, ?_, ?_, ?_⟩
  · rw [hent, ← h.log, Run.log, Run.log, hj]
  · rw [fedBy_snoc, ← h.output, hs]
  · rw [lastVerdict_snoc, ← h.converged, hv]
  · rw [hi, hent, h.interrupted]

private theorem Did.emit_ok (ho : o.TakesAll new) (h : Did o new m past r) (e : Event) :
    (o.emit r.output e).1 = .ok () := by
  rw [h.output]
  exact ho _ _ e (fed_fedBy o new past)

/-- A wait that does not stop the session lets its time pass. -/
private theorem Did.wait_on (h : Did o new m past r) {t : Nat} (ht : 0 < t)
    (hs : m.any (·.stops past ⟨r.now, .wait t⟩) = false) :
    r.wait o m (some t) = (.goOn, { r with output := o.rest r.output, now := r.now + t }) := by
  have hi := h.interrupted
  cases m with
  | none => simp_all [Run.wait]
  | some m =>
    cases m with
    | time t' =>
      have hearly : ¬ t' < r.now + t := by
        intro hlt
        simp [Moment.stops, Moment.comesBy, Deed.isWait, Deed.lastsPast, ht, hlt] at hs
      simp_all [Run.wait, Moment.shownBy]
    | _ => simp_all [Run.wait, Moment.stops, Moment.comesBy, Deed.isWait]

/-- An action that does not stop the session becomes a deed. -/
theorem Did.act (ho : o.TakesAll new) (h : Did o new m past r) {a : Action} (ha : a ≠ .stall)
    (hs : m.any (·.stops past ⟨r.now, a⟩) = false) :
    ∃ r', r.act o m a = (.goOn, r') ∧ r'.now = r.now + a.span ∧
      Did o new m (past ++ [⟨r.now, a⟩]) r' := by
  cases a with
  | stall => exact absurd rfl ha
  | ask q =>
    have hq : Entry.asked q ≠ .interrupted := by simp
    obtain ⟨-, -, hnow, -, hout⟩ := mark_spec r m _ hq
    refine ⟨r.mark m (.asked q), rfl, hnow, ?_⟩
    have hm := h.mark ⟨r.now, .ask q⟩ hq rfl rfl
    simpa only [Deed.feed, ← hout] using hm
  | emit e =>
    have he : Entry.emitted r.now e ≠ .interrupted := by simp
    refine ⟨{ r.mark m (.emitted r.now e) with output := (o.emit r.output e).2 }, ?_,
      (mark_spec r m _ he).2.2.1, h.mark ⟨r.now, .emit e⟩ he rfl rfl⟩
    simp only [Run.act, Run.emit, h.emit_ok ho e]
  | settle b => exact ⟨_, rfl, rfl, h.silent _ rfl rfl rfl rfl rfl⟩
  | note n =>
    refine ⟨r.record (.noted n), rfl, rfl, ?_⟩
    have hm := h.mark ⟨r.now, .note n⟩ (e := .noted n) (by simp) rfl rfl
    rw [mark_noted] at hm
    exact hm
  | wait t =>
    cases t with
    | zero => exact ⟨r, rfl, rfl, h.silent _ rfl rfl rfl rfl rfl⟩
    | succ t => exact ⟨_, h.wait_on (Nat.succ_pos t) hs, rfl, h.silent _ rfl rfl rfl rfl rfl⟩

/-- A run that was interrupted while it waited, after these deeds. -/
structure Left (o : Output σ) (new : σ) (m : Option Moment) (past : List Deed) (d : Deed)
    (r : Run σ) : Prop where
  log : r.log = entriesOf past
  output : r.output = o.rest (fedBy o new past)
  converged : r.converged = lastVerdict past
  now : r.now = noticedAt m d.time

/-- A wait is left at once when the moment came before, and else at its time. -/
private theorem Did.wait_off {m : Moment} (h : Did o new (some m) past r) (time : Option Nat)
    (hc : m.shownBy (entriesOf past) = true ∨
      ∃ t, m = .time t ∧ ∀ d, time = some d → t < r.now + d) :
    ∃ r', r.wait o (some m) time = (.detach, r') ∧ r'.log = r.log ∧
      r'.output = o.rest r.output ∧ r'.converged = r.converged ∧
      r'.now = noticedAt (some m) r.now := by
  have hi := h.interrupted
  rw [Option.any_some] at hi
  rcases hc with hcome | ⟨t, rfl, ht⟩
  · have hr : r.interrupted = true := hi.trans hcome
    refine ⟨{ r with output := o.rest r.output }, by simp [Run.wait, hr], rfl, rfl, rfl, ?_⟩
    cases m with
    | time t => cases hcome
    | _ => rfl
  · have hr : r.interrupted = false := hi
    have hlog := log_interrupt { r with output := o.rest r.output }
    refine ⟨{ ({ r with output := o.rest r.output } : Run σ).interrupt with now := max r.now t },
      ?_, hlog, rfl, rfl, rfl⟩
    cases time with
    | none => simp [Run.wait, hr]
    | some d => simp [Run.wait, hr, ht d rfl]

/-- Where the session waits when the moment has come, it detaches. -/
theorem Did.stopped (h : Did o new m past r) {a : Action}
    (hs : m.any (·.stops past ⟨r.now, a⟩) = true) :
    ∃ r', r.act o m a = (.detach, r') ∧ Left o new m past ⟨r.now, a⟩ r' := by
  cases m with
  | none => cases hs
  | some m =>
    rw [Option.any_some, Moment.stops, Bool.and_eq_true] at hs
    obtain ⟨hwait, hcome⟩ := hs
    obtain ⟨time, hact, hc⟩ : ∃ time, r.act o (some m) a = r.wait o (some m) time ∧
        (m.shownBy (entriesOf past) = true ∨
          ∃ t, m = .time t ∧ ∀ d, time = some d → t < r.now + d) := by
      cases a with
      | wait t =>
        cases t with
        | zero => cases hwait
        | succ t =>
          refine ⟨some (t + 1), rfl, ?_⟩
          cases m <;> simp_all [Moment.comesBy, Deed.lastsPast]
      | stall =>
        refine ⟨none, rfl, ?_⟩
        cases m <;> simp_all [Moment.comesBy]
      | _ => cases hwait
    obtain ⟨r', hw, hlog, hout, hconv, hnow⟩ := h.wait_off time hc
    exact ⟨r', hact.trans hw, hlog.trans h.log, by rw [hout, h.output],
      hconv.trans h.converged, hnow⟩

/-- Actions that do not stop the session become deeds. -/
theorem Did.actAll (ho : o.TakesAll new) (h : Did o new m past r) {as : List Action}
    (ha : .stall ∉ as) (hs : stop? m past (deedsFrom r.now as) = none) :
    ∃ r', r.actAll o m as = (.goOn, r') ∧ r'.now = timeAfter r.now as ∧
      Did o new m (past ++ deedsFrom r.now as) r' := by
  induction as generalizing past r with
  | nil => exact ⟨r, rfl, rfl, by simpa [deedsFrom] using h⟩
  | cons a as ih =>
    rw [deedsFrom, stop?] at hs
    split at hs
    · cases hs
    · rename_i hd
      obtain ⟨hstall, hrest⟩ : a ≠ .stall ∧ .stall ∉ as := by simpa [eq_comm] using ha
      obtain ⟨r₁, hact, hnow, h₁⟩ := h.act ho hstall (by simpa using hd)
      obtain ⟨r₂, hall, hnow₂, h₂⟩ := ih h₁ hrest (by rwa [hnow])
      refine ⟨r₂, ?_, ?_, ?_⟩
      · simp only [Run.actAll, hact, hall]
      · rw [hnow₂, hnow, timeAfter]
      · simpa [deedsFrom, hnow] using h₂

theorem Did.actAll_stopped (ho : o.TakesAll new) (h : Did o new m past r) {as : List Action}
    {part : List Deed} {d : Deed} (ha : .stall ∉ as)
    (hs : stop? m past (deedsFrom r.now as) = some (part, d)) :
    ∃ r', r.actAll o m as = (.detach, r') ∧ Left o new m part d r' := by
  induction as generalizing past r with
  | nil => cases hs
  | cons a as ih =>
    rw [deedsFrom, stop?] at hs
    split at hs
    · rename_i hd
      cases hs
      obtain ⟨r', hact, hl⟩ := h.stopped hd
      exact ⟨r', by simp only [Run.actAll, hact], hl⟩
    · rename_i hd
      obtain ⟨hstall, hrest⟩ : a ≠ .stall ∧ .stall ∉ as := by simpa [eq_comm] using ha
      obtain ⟨r₁, hact, hnow, h₁⟩ := h.act ho hstall (by simpa using hd)
      obtain ⟨r₂, hall, hl⟩ := ih h₁ hrest (by rwa [hnow])
      exact ⟨r₂, by simp only [Run.actAll, hact, hall], hl⟩

end Session
end Rollout
