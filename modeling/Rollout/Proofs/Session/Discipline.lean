import Rollout.Output.Scripted
import Rollout.Proofs.Session.Image
import Rollout.Proofs.Session.Queries

/-!
The discipline of a session towards its engine and its output. Its queries follow each other in a
fixed order, and a query that fails or an event that is refused is the last thing that the session
does before it closes its output, once (`run_discipline`).
-/

namespace Rollout

/-! ## Calls of an output -/

/-- A call of an output, with its answer. -/
inductive Output.Call where
  | emit (e : Event) (answer : Except OutputError Unit)
  | close (answer : Except OutputError Unit)

/-- An output with the calls that were made of it. -/
def Output.traced (o : Output σ) : Output (σ × List Output.Call) where
  emit s e := ((o.emit s.1 e).1, (o.emit s.1 e).2, s.2 ++ [.emit e (o.emit s.1 e).1])
  close s := ((o.close s.1).1, (o.close s.1).2, s.2 ++ [.close (o.close s.1).1])
  rest s := (o.rest s.1, s.2)

theorem Output.traced_answers (o : Output σ) : o.traced.Answers Prod.fst o :=
  ⟨fun _ _ => rfl, fun _ => rfl, fun _ => rfl⟩

theorem Output.Took.calls {o : Output σ} {new : σ} {es : List Event} {s : σ × List Output.Call}
    (h : o.traced.Took (new, []) es s) : s.2 = es.map (.emit · (.ok ())) := by
  induction h with
  | new => rfl
  | @emit es s e _ hok ih =>
    have hcall : (o.traced.emit s e).2.2 = s.2 ++ [.emit e (o.traced.emit s e).1] := rfl
    rw [hcall, hok, ih, List.map_append]
    rfl
  | rest _ ih => exact ih

namespace Session

/-! ## Sessions -/

/-- Did a session end with this failure right after this entry? -/
def BrokenOff (f : Failure) (last : Entry) (result : Ending × Run σ) : Prop :=
  result.1 = .done (.error f) ∧ ∃ before, result.2.log = before ++ [last]

/-- An output that took all events of a session, or refused the last one, which ended it. -/
def Delivered (o : Output σ) (new : σ) (e : Ending) (r : Run σ) : Prop :=
  (r.Took o new ∧ e.Unrefused) ∨ ∃ event x t, r.WasRefused o new event x ∧
    BrokenOff (.output x) (.emitted t event) (e, r)

/-- A session that is over, up to the close of its output. -/
structure Over (o : Output σ) (new : σ) (script : Script) (id : String) (e : Ending) (r : Run σ) :
    Prop where
  queries : r.queries = (List.range r.queries.length).map (requestAt id)
  failed : ∀ i x, i < r.queries.length → (script.replyAt i).error? = some x →
    r.queries.length = i + 1 ∧ ((script.replyAt i).delay = 0 ∨ r.interrupted = false →
      BrokenOff (.query x) (.asked (requestAt id i)) (e, r))
  delivered : Delivered o new e r

variable {script : Script} {id : String} {n : Nat} {o : Output σ} {new : σ} {m : Option Moment}
  {r r' : Run σ} {e : Ending}

theorem length_queries (h : r.queries = (List.range n).map (requestAt id)) :
    r.queries.length = n := by
  simp [h]

theorem Answered.over (h : Answered script id n r) (hr : Delivered o new e r) :
    Over o new script id e r where
  queries := by rw [length_queries h.queries, h.queries]
  failed i x hi hx := by
    rw [length_queries h.queries] at hi
    rw [h.fine i hi] at hx
    cases hx
  delivered := hr

theorem Abandoned.over (h : Abandoned script id n r) (hr : Delivered o new e r) :
    Over o new script id e r where
  queries := by rw [length_queries h.queries, h.queries]
  failed i x hi hx := by
    rw [length_queries h.queries] at hi ⊢
    obtain ⟨hlast, hdelay⟩ := h.open_last i x hi hx
    refine ⟨hlast.symm, fun hfails => ?_⟩
    rw [h.interrupted] at hfails
    rcases hfails with hzero | hnot
    · omega
    · cases hnot
  delivered := hr

theorem Failed.over {x : EngineError} (h : Failed script id n x r) (ht : r.Took o new) :
    Over o new script id (.done (.error (.query x))) r where
  queries := by rw [length_queries h.queries, h.queries]
  failed i x' hi hx := by
    rw [length_queries h.queries] at hi ⊢
    rcases Nat.lt_succ_iff_lt_or_eq.1 hi with hlt | rfl
    · rw [h.fine i hlt] at hx
      cases hx
    · rw [h.error] at hx
      cases hx
      exact ⟨rfl, fun _ => ⟨rfl, h.last⟩⟩
  delivered := .inl ⟨ht, nofun⟩

/-- A session that detaches asks nothing more, and stops at the first message that is refused. -/
theorem Abandoned.detach (h : Abandoned script id n r) (ht : r.Took o new) (m : Option Moment) :
    Over o new script id (detach o m id r).1 (detach o m id r).2 := by
  have hlocal := isLocal_of_isAside (detach_asides id r.converged)
  have hcarried := actAll_carried o m r (detachActions id r.converged)
  have hi := (detach_acted o m id r).interrupted h.interrupted
  have htook := detach_took (o := o) (m := m) ht id
  unfold Session.detach at hi htook ⊢
  cases hact : r.actAll o m (detachActions id r.converged) with
  | mk next r' =>
    rw [hact] at hcarried hi htook
    cases hcarried with
    | through hlog _ =>
      exact (h.of_local hlocal hlog hi).over (.inl ⟨htook nofun, nofun⟩)
    | @refused done rest event x _ has hlog =>
      have hdone : (done ++ [Action.emit event]).all Action.isLocal = true := by
        rw [has, List.all_append, Bool.and_eq_true] at hlocal
        rw [List.all_append, hlocal.1]
        rfl
      obtain ⟨event', before, t, hwas, hend⟩ := actAll_refused ht hact
      exact (h.of_local hdone hlog hi).over (.inr ⟨event', x, t, hwas, rfl, before, hend⟩)
    | @left done rest a _ has ha =>
      rw [has, List.all_append, List.all_cons, Bool.and_eq_true, Bool.and_eq_true] at hlocal
      rw [isWait_of_isLocal hlocal.2.1] at ha
      cases ha
    | @stuck done rest _ has =>
      rw [has] at hlocal
      simp [Action.isLocal] at hlocal

/-- A tick that ends with a failure of its own was not refused anything. -/
theorem Verdict.ending?_unrefused {v : Verdict} (hv : v.ending? = some e)
    (hown : ∀ f, v = .fail f → f.isOwn = true) : e.Unrefused := by
  rintro x rfl
  cases v with
  | fail f =>
    cases hv
    cases hown _ rfl
  | _ => cases hv

theorem tick_played {id : String} {k : Nat} {w : Watch} {next : Next}
    (hr : Answered script id (3 * k) r)
    (hact : r.actAll o m (w.tick id (script k) r.now).actions = (next, r')) :
    Played script id (3 * (k + 1)) (w.tick id (script k) r.now).verdict (next, r') :=
  hact ▸ (w.tick_plays id k r.now).played hr

theorem actAll_took_of {next : Next} {as : List Action} (ht : r.Took o new)
    (hact : r.actAll o m as = (next, r')) (hn : ∀ x, next ≠ .refused x) : r'.Took o new := by
  have htook := actAll_took (m := m) ht as (by simpa [hact] using hn)
  rwa [hact] at htook

theorem Halt.over {id : String} {k : Nat} {w : Watch} {result : Ending × Run σ}
    (h : Halt o m id script k w r result) (hr : Answered script id (3 * k) r) (ht : r.Took o new) :
    Over o new script id result.1 result.2 := by
  cases h with
  | unfinished => exact hr.over (.inl ⟨ht, nofun⟩)
  | detached hi => exact (hr.abandoned hi).detach ht m
  | left _ hact =>
    cases tick_played hr hact with
    | left habandoned => exact habandoned.detach (actAll_took_of ht hact nofun) m
  | @refused r' x _ hact =>
    obtain ⟨event, before, t, hwas, hlast⟩ := actAll_refused ht hact
    cases tick_played hr hact with
    | refused hanswered => exact hanswered.over (.inr ⟨event, x, t, hwas, rfl, before, hlast⟩)
  | stuck _ hact =>
    cases tick_played hr hact with
    | stuck hanswered => exact hanswered.over (.inl ⟨actAll_took_of ht hact nofun, nofun⟩)
  | ended _ hact hv =>
    have htook := actAll_took_of ht hact nofun
    cases tick_played hr hact with
    | on hanswered _ hown => exact hanswered.over (.inl ⟨htook, Verdict.ending?_unrefused hv hown⟩)
    | failed hfailed hverdict =>
      rw [hverdict] at hv
      cases hv
      exact hfailed.over htook

theorem Passage.over {options : Options} {id : String} {k : Nat} {w : Watch}
    {result : Ending × Run σ} (h : Passage o options m id script k w r result)
    (hr : Answered script id (3 * k) r) (ht : r.Took o new) :
    Over o new script id result.1 result.2 := by
  -- Each tick begins with all queries of the ticks before answered, and all events taken.
  induction h with
  | halt hhalt => exact hhalt.over hr ht
  | @next k w w' r r' result _ hact hv _ ih =>
    have htook := actAll_took_of ht hact nofun
    cases tick_played hr hact with
    | on hanswered hlast _ =>
      obtain ⟨hlog, -, hnext⟩ := wait_spec o m r' options.interval
      refine ih ?_ (act_took htook _ fun x hx => ?_)
      · rw [← hlast w' hv]
        exact hanswered.of_log hlog
      · rcases hnext with hgo | ⟨hdetach, -⟩
        · rw [hgo] at hx
          cases hx
        · rw [hdetach] at hx
          cases hx
    | failed _ hverdict =>
      rw [hv] at hverdict
      cases hverdict

theorem ownRun_over (o : Output σ) (new : σ) (options : Options) (m : Option Moment) (id : String)
    (script : Script) (count : Nat) :
    let own := ownRun o new options m id script count
    Over o new script id own.1 own.2 := by
  obtain ⟨hlog, -, houtput⟩ := begin_spec new m id
  refine (ticks_passage o options m id script count 0 (.start options.monitor) _).over ?_ ?_
  · exact ⟨by rw [Run.queries, hlog]; rfl, fun i hi => by omega⟩
  · rw [Run.Took, Run.events, hlog, houtput]
    exact .new

/-- Closing an output is the last call of it. Its failure is that of a session that had none. -/
def closing (answer : Except OutputError Unit) : Except Failure Unit → Except Failure Unit
  | .error f => .error f
  | .ok () => answer.mapError .output

/-- A session that is over has its output closed, and is answered then. -/
theorem finish_calls (o : Output σ) (own : Ending × Run (σ × List Output.Call)) :
    let whole := finish o.traced own
    (whole.1 = .unfinished ∧ whole.2.output.2 = own.2.output.2) ∨
      ∃ result answer, own.1 = .done result ∧ whole.1 = .done (closing answer result) ∧
        whole.2.output.2 = own.2.output.2 ++ [.close answer] := by
  obtain ⟨e, r⟩ := own
  cases e with
  | unfinished => exact .inl ⟨rfl, rfl⟩
  | done result =>
    refine .inr ⟨result, (o.close r.output.1).1, rfl, ?_, rfl⟩
    have hanswer : (o.traced.close r.output).1 = (o.close r.output.1).1 := rfl
    simp only [finish, closing, hanswer]
    cases result <;> cases (o.close r.output.1).1 <;> rfl

/-- The events of the emissions among some calls. -/
def emissionsOf (calls : List Output.Call) : List Event :=
  calls.filterMap fun
    | .emit e _ => some e
    | .close _ => none

/-- What the calls of an output tell about a session that is over, up to the close. -/
structure Told (calls : List Output.Call) (result : Ending × Run σ) : Prop where
  events : emissionsOf calls = result.2.events
  emits : ∀ call ∈ calls, ∃ e answer, call = .emit e answer
  refused : ∀ i e x, calls[i]? = some (.emit e (.error x)) → result.2.events.length = i + 1 ∧
    ∃ t, BrokenOff (.output x) (.emitted t e) result

theorem emissionsOf_ok (es : List Event) :
    emissionsOf (es.map (.emit · (.ok ()))) = es := by
  induction es with
  | nil => rfl
  | cons e es ih => exact congrArg (e :: ·) ih

theorem emissionsOf_append (as bs : List Output.Call) :
    emissionsOf (as ++ bs) = emissionsOf as ++ emissionsOf bs := by
  rw [emissionsOf, List.filterMap_append]
  rfl

/-- Among calls that end with a refusal, there is no other. -/
theorem refusal_last {es : List Event} {event e : Event} {x y : OutputError} {i : Nat}
    (hi : (es.map (Output.Call.emit · (.ok ())) ++ [.emit event (.error x)])[i]? =
      some (.emit e (.error y))) : i = es.length ∧ e = event ∧ y = x := by
  rw [List.getElem?_append, List.length_map] at hi
  split at hi
  · simp at hi
  · rw [List.getElem?_singleton] at hi
    split at hi
    · cases hi
      exact ⟨by omega, rfl, rfl⟩
    · cases hi

/-- An emission is not the close that follows the emissions. -/
theorem emission_before_close {emits : List Output.Call} {answer a : Except OutputError Unit}
    {e : Event} {i : Nat} (hi : (emits ++ [.close answer])[i]? = some (.emit e a)) :
    emits[i]? = some (.emit e a) := by
  rw [List.getElem?_append] at hi
  split at hi
  · exact hi
  · rw [List.getElem?_singleton] at hi
    split at hi <;> cases hi

theorem Over.told {r : Run (σ × List Output.Call)} (h : Over o.traced (new, []) script id e r) :
    Told r.output.2 (e, r) := by
  rcases h.delivered with ⟨htook, -⟩ | ⟨event, x, t, ⟨es, s, htook, hevents, hrefusal⟩, hbroken⟩
  · have hcalls := Output.Took.calls htook
    refine ⟨?_, ?_, ?_⟩
    · rw [hcalls, emissionsOf_ok]
    · simp [hcalls]
    · simp [hcalls]
  · have hcall : r.output.2 = s.2 ++ [.emit event (o.emit s.1 event).1] :=
      (congrArg (·.2.2) hrefusal).symm
    have hanswer : (o.emit s.1 event).1 = .error x := congrArg Prod.fst hrefusal
    rw [hanswer, Output.Took.calls htook] at hcall
    refine ⟨?_, ?_, ?_⟩
    · rw [hcall, emissionsOf_append, emissionsOf_ok, hevents]
      rfl
    · rw [hcall]
      intro call hmem
      rcases List.mem_append.1 hmem with hmem | hmem
      · obtain ⟨e', -, rfl⟩ := List.mem_map.1 hmem
        exact ⟨_, _, rfl⟩
      · exact ⟨_, _, List.mem_singleton.1 hmem⟩
    · intro i e' x' hi
      rw [hcall] at hi
      obtain ⟨rfl, rfl, rfl⟩ := refusal_last hi
      refine ⟨?_, t, hbroken⟩
      rw [hevents, List.length_append, List.length_singleton]

/-- A session that broke off keeps its failure when its output is closed. -/
theorem BrokenOff.finish {f : Failure} {entry : Entry} {own : Ending × Run σ}
    (h : BrokenOff f entry own) (o : Output σ) : BrokenOff f entry (finish o own) :=
  ⟨finish_failed o h.1, (finish_spec o own).1.symm ▸ h.2⟩

/-- Whatever becomes of queries, events and the close, and whenever a session is interrupted: its
queries go round in their order, and are for the service that it watches and its current tasks. A
query that is answered with an error is the last thing that the session does, and its error is the
result; only an interruption may come before the answer. A refusal of an event is the last thing
that it does as well. An output is closed once, after all events, by a session that ends; and only a
session that has not failed fails with that. The calls are those of the same session over the output
that traces them. -/
theorem run_discipline (o : Output σ) (new : σ) (options : Options) (m : Option Moment)
    (id : String) (script : Script) (count : Nat) :
    let own := ownRun o new options m id script count
    let whole := run o new options m id script count
    let traced := run o.traced (new, []) options m id script count
    let n := whole.2.queries.length
    let calls := traced.2.output.2
    whole = imaged Prod.fst traced ∧
    whole.2.queries = (List.range n).map (requestAt id) ∧
    (∀ i x, i < n → (script.replyAt i).error? = some x → n = i + 1 ∧
      ((script.replyAt i).delay = 0 ∨ whole.2.interrupted = false →
        BrokenOff (.query x) (.asked (requestAt id i)) whole)) ∧
    (∀ i e x, calls[i]? = some (.emit e (.error x)) → whole.2.events.length = i + 1 ∧
      ∃ t, BrokenOff (.output x) (.emitted t e) whole) ∧
    ∃ emits, (∀ call ∈ emits, ∃ e answer, call = .emit e answer) ∧
      emissionsOf emits = whole.2.events ∧
      (whole.1 = .unfinished ∧ calls = emits ∨
        ∃ result answer, own.1 = .done result ∧ whole.1 = .done (closing answer result) ∧
          calls = emits ++ [.close answer]) := by
  intro own whole traced n calls
  let before := ownRun o.traced (new, []) options m id script count
  have hover : Over o.traced (new, []) script id before.1 before.2 :=
    ownRun_over o.traced (new, []) options m id script count
  have htold := hover.told
  -- The output is not told apart from the one that has its calls traced.
  have hown : own = imaged Prod.fst before :=
    ownRun_image o.traced_answers (new, []) options m id script count
  have hwhole : whole = imaged Prod.fst traced :=
    run_image o.traced_answers (new, []) options m id script count
  have hbroken : ∀ {f last}, BrokenOff f last before → BrokenOff f last whole := by
    intro f last h
    rw [hwhole]
    exact h.finish o.traced
  have hclosed : whole.1 = .unfinished ∧ calls = before.2.output.2 ∨
      ∃ result answer, own.1 = .done result ∧ whole.1 = .done (closing answer result) ∧
        calls = before.2.output.2 ++ [.close answer] := by
    rw [hwhole, hown]
    exact finish_calls o before
  obtain ⟨hfinished, hstays⟩ := finish_spec o.traced before
  have hlog : whole.2.log = before.2.log := (congrArg (·.2.log) hwhole).trans hfinished
  have hinterrupted : whole.2.interrupted = before.2.interrupted :=
    (congrArg (·.2.interrupted) hwhole).trans hstays
  have hqueries : whole.2.queries = before.2.queries := by rw [Run.queries, hlog]; rfl
  have hevents : whole.2.events = before.2.events := by rw [Run.events, hlog]; rfl
  refine ⟨hwhole, ?_, fun i x hi hx => ?_, fun i e x hcall => ?_,
    before.2.output.2, htold.emits, htold.events.trans hevents.symm, hclosed⟩
  · simp only [n, hqueries]
    exact hover.queries
  · simp only [n, hqueries] at hi ⊢
    obtain ⟨hlast, hfails⟩ := hover.failed i x hi hx
    exact ⟨hlast, fun hnot => hbroken (hfails (hinterrupted ▸ hnot))⟩
  · have hemitted : before.2.output.2[i]? = some (.emit e (.error x)) := by
      rcases hclosed with ⟨-, hsame⟩ | ⟨result, answer, -, -, hcalls⟩
      · exact hsame ▸ hcall
      · rw [hcalls] at hcall
        exact emission_before_close hcall
    obtain ⟨hlen, t, hrefused⟩ := htold.refused i e x hemitted
    exact ⟨hevents ▸ hlen, t, hbroken hrefused⟩

/-- A session whose third query fails, over an output that cannot be closed: the failure of the
query stays the result. -/
theorem run_discipline_of_failed_query :
    let service : Service := ⟨"web", ⟨"web", .ofReplicas 2, none⟩, some ⟨.rollbackStarted, "why"⟩⟩
    let cause : EngineError := .http .receiving
    let script : Script := fun _ =>
      ⟨.prompt service, ⟨50, some (.ok [])⟩, ⟨20, some (.error cause)⟩, 0⟩
    let gate : Gate Recording := ⟨.empty, none, true, 0, 0⟩
    let whole := run Output.recording.gated gate ⟨200, 5000⟩ none "web" script 4
    let traced := run Output.recording.gated.traced (gate, []) ⟨200, 5000⟩ none "web" script 4
    whole = imaged Prod.fst traced ∧
      whole.2.queries = [.service "web", .tasks ⟨"web", true⟩, .nodes] ∧
      (script.replyAt 2).error? = some cause ∧
      BrokenOff (.query cause) (.asked .nodes) whole ∧
      traced.2.output.2 = [.emit (.act rollbackId "why") (.ok ()),
        .close (.error (.refused "close refused"))] := by
  intro service cause script gate whole traced
  obtain ⟨hwhole, hqueries, hfailed, -, -⟩ :=
    run_discipline Output.recording.gated gate ⟨200, 5000⟩ none "web" script 4
  have herror : (script.replyAt 2).error? = some cause := rfl
  obtain ⟨-, hbroken⟩ := hfailed 2 cause (by decide) herror
  exact ⟨hwhole, hqueries, herror, hbroken (.inr rfl), rfl⟩

end Session
end Rollout
