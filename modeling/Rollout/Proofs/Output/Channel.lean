import Rollout.Output.Scripted

/-!
A channel and its client side by side. The worker may take its events at any time, between the calls
of the client and while the client waits in a close. What the client is told and what the renderer
gets depend on the calls alone (`delivery`).
-/

namespace Rollout

/-! ## A renderer without a channel -/

/-- A call that a renderer got, with its answer. -/
inductive Heard where
  | event (e : Event) (answer : Rendered)
  | close (answer : Except OutputError Unit)

/-- What comes of events that are offered to a renderer: the calls that it got, the answer to the
last one, and the renderer. -/
structure Offered (σ : Type) where
  heard : List Heard
  last : Rendered
  inner : σ

namespace Renderer

/-- A renderer that keeps the calls it got, the earliest first. -/
def traced (r : Renderer σ) : Renderer (σ × List Heard) where
  emit s e := ((r.emit s.1 e).1, (r.emit s.1 e).2, s.2 ++ [.event e (r.emit s.1 e).1])
  close s := ((r.close s.1).1, (r.close s.1).2, s.2 ++ [.close (r.close s.1).1])

/-- Offers events one after another, up to the first that is not taken. -/
def offer (r : Renderer σ) (s : σ) : List Event → Offered σ
  | [] => ⟨[], .ok, s⟩
  | e :: es =>
    match r.emit s e with
    | (.ok, s) => { r.offer s es with heard := .event e .ok :: (r.offer s es).heard }
    | (answer, s) => ⟨[.event e answer], answer, s⟩

end Renderer

/-- The worker after the last answer of its renderer. -/
def Rendered.worker : Rendered → Worker
  | .ok => .waiting none
  | .refused e => .waiting (some e)
  | .broken => .dead

namespace Channel

theorem take_ne_waiting (r : Renderer σ) {w : Worker} (hw : w ≠ .waiting none) (s : σ) (e : Event) :
    take r w s e = (w, s) := by
  cases w with
  | dead => rfl
  | waiting refusal =>
    cases refusal with
    | none => exact absurd rfl hw
    | some x => rfl

theorem take_waiting (r : Renderer σ) (s : σ) (e : Event) :
    take r (.waiting none) s e = ((r.emit s e).1.worker, (r.emit s e).2) := by
  unfold take
  dsimp only
  split <;> simp_all [Rendered.worker]

/-- Events that are taken one after another. -/
def takeAll (r : Renderer σ) (w : Worker) (s : σ) (es : List Event) : Worker × σ :=
  es.foldl (fun p e => take r p.1 p.2 e) (w, s)

theorem takeAll_ne_waiting (r : Renderer σ) {w : Worker} (hw : w ≠ .waiting none) (s : σ)
    (es : List Event) : takeAll r w s es = (w, s) := by
  induction es with
  | nil => rfl
  | cons e es ih =>
    rw [takeAll, List.foldl_cons, take_ne_waiting r hw]
    exact ih

/-- The worker stops where the renderer does not take an event. -/
theorem takeAll_waiting (r : Renderer σ) (s : σ) (heard : List Heard) (es : List Event) :
    takeAll r.traced (.waiting none) (s, heard) es =
      ((r.offer s es).last.worker, (r.offer s es).inner, heard ++ (r.offer s es).heard) := by
  induction es generalizing s heard with
  | nil => simp [takeAll, Renderer.offer, Rendered.worker]
  | cons e es ih =>
    have hfirst : takeAll r.traced (.waiting none) (s, heard) (e :: es) =
        takeAll r.traced (r.emit s e).1.worker
          ((r.emit s e).2, heard ++ [.event e (r.emit s e).1]) es := by
      rw [takeAll, List.foldl_cons, take_waiting]
      rfl
    rw [hfirst, Renderer.offer]
    cases hemit : r.emit s e with
    | mk answer s' =>
      cases answer with
      | ok =>
        rw [Rendered.worker, ih]
        simp
      | refused x => exact takeAll_ne_waiting _ (by simp [Rendered.worker]) _ _
      | broken => exact takeAll_ne_waiting _ (by simp [Rendered.worker]) _ _

/-! ## What the worker comes to -/

/-- The worker and the renderer once all that is queued is taken. -/
def outcome (r : Renderer σ) (c : Channel σ) : Worker × σ :=
  takeAll r c.worker c.inner c.queue.toList

/-- The worker takes so many events, or all that are queued. -/
def steps (r : Renderer σ) : Nat → Channel σ → Channel σ
  | 0, c => c
  | n + 1, c => steps r n (c.step r)

theorem drain_eq (r : Renderer σ) (c : Channel σ) :
    c.drain r = { c with worker := (c.outcome r).1, inner := (c.outcome r).2, queue := #[] } := by
  rw [outcome, takeAll, Array.foldl_toList]
  rfl

/-- The worker gets on, and comes to the same. -/
theorem outcome_step (r : Renderer σ) (c : Channel σ) : (c.step r).outcome r = c.outcome r := by
  obtain ⟨inner, ⟨queue⟩, worker, isOpen⟩ := c
  cases queue with
  | nil => rfl
  | cons e es => simp [outcome, step, takeAll]

theorem isOpen_step (r : Renderer σ) (c : Channel σ) : (c.step r).isOpen = c.isOpen := by
  unfold step
  split <;> rfl

theorem size_step (r : Renderer σ) (c : Channel σ) :
    (c.step r).queue.size = c.queue.size - 1 := by
  obtain ⟨inner, ⟨queue⟩, worker, isOpen⟩ := c
  cases queue <;> simp [step]

theorem queue_of_steps (r : Renderer σ) (c : Channel σ) :
    (c.steps r c.queue.size).queue = #[] := by
  have hsize : ∀ n (c : Channel σ), (c.steps r n).queue.size = c.queue.size - n := by
    intro n
    induction n with
    | zero => exact fun c => rfl
    | succ n ih =>
      intro c
      rw [steps, ih, size_step, Nat.sub_sub, Nat.add_comm]
  exact Array.size_eq_zero_iff.1 ((hsize _ c).trans (Nat.sub_self _))

theorem outcome_steps (r : Renderer σ) (n : Nat) (c : Channel σ) :
    (c.steps r n).outcome r = c.outcome r ∧ (c.steps r n).isOpen = c.isOpen := by
  induction n generalizing c with
  | zero => exact ⟨rfl, rfl⟩
  | succ n ih => exact ⟨(ih _).1.trans (outcome_step r c), (ih _).2.trans (isOpen_step r c)⟩

/-- An event that is taken is the last one that the worker comes to. -/
theorem emit_alive (r : Renderer σ) {c : Channel σ} (hc : c.isOpen = true)
    (hw : c.worker ≠ .dead) (e : Event) :
    (c.emit e).1 = .ok () ∧ (c.emit e).2.isOpen = true ∧
      (c.emit e).2.outcome r = take r (c.outcome r).1 (c.outcome r).2 e := by
  have hemit : c.emit e = (.ok (), { c with queue := c.queue.push e }) := by
    simp [emit, hc, hw]
  rw [hemit]
  exact ⟨rfl, hc, by simp [outcome, takeAll]⟩

theorem emit_closed {c : Channel σ} (hc : c.isOpen = false) (e : Event) :
    c.emit e = (.error .closed, c) := by
  simp [emit, hc]

/-- A worker that is dead does not come back. -/
theorem worker_alive {r : Renderer σ} {c : Channel σ} (h : (c.outcome r).1 ≠ .dead) :
    c.worker ≠ .dead := by
  intro hdead
  rw [outcome, hdead, takeAll_ne_waiting r (by simp)] at h
  exact h rfl

/-- What a close is answered, and the renderer that it leaves. -/
def ending (r : Renderer σ) : Worker → σ → Except OutputError Unit × σ
  | .dead, s => (.error .rendererDied, s)
  | .waiting (some e), s => (.error e, (r.close s).2)
  | .waiting none, s => r.close s

theorem close_open (r : Renderer σ) {c : Channel σ} (hc : c.isOpen = true) :
    c.close r = ((ending r (c.outcome r).1 (c.outcome r).2).1,
      ⟨(ending r (c.outcome r).1 (c.outcome r).2).2, #[], (c.outcome r).1, false⟩) := by
  simp only [close, hc, drain_eq, Bool.not_true, Bool.false_eq_true, if_false]
  cases hw : (c.outcome r).1 with
  | dead => rfl
  | waiting refusal => cases refusal <;> rfl

theorem close_closed (r : Renderer σ) {c : Channel σ} (hc : c.isOpen = false) :
    c.close r = (.ok (), c) := by
  simp [close, hc]

/-- The answer to a close does not depend on how far the worker has come. -/
theorem close_steps (r : Renderer σ) (n : Nat) (c : Channel σ) :
    ((c.steps r n).close r).1 = (c.close r).1 := by
  obtain ⟨hout, hopen⟩ := outcome_steps r n c
  cases hc : c.isOpen with
  | true => rw [close_open r hc, close_open r (hopen.trans hc), hout]
  | false => rw [close_closed r hc, close_closed r (hopen.trans hc)]

end Channel

/-- What a close is answered by a channel that has taken some events. The renderer of its worker is
closed behind them. -/
def Renderer.closing (r : Renderer σ) (new : σ) (es : List Event) :
    Except OutputError Unit × σ × List Heard :=
  Channel.ending r.traced (r.offer new es).last.worker
    ((r.offer new es).inner, (r.offer new es).heard)

/-! ## Renderers that take everything -/

/-- The calls of a renderer that took events and was closed well behind them. -/
def allTaken (es : List Event) : List Heard := es.map (.event · .ok) ++ [.close (.ok ())]

private theorem offer_taken (r : Renderer σ) (s : σ) (es : List Event) :
    (r.offer s es).last = .ok ↔ (r.offer s es).heard = es.map (.event · .ok) := by
  induction es generalizing s with
  | nil => simp [Renderer.offer]
  | cons e es ih =>
    rw [Renderer.offer]
    cases hemit : r.emit s e with
    | mk answer s' => cases answer <;> simp [ih]

private theorem close_not_offered (r : Renderer σ) (s : σ) (es : List Event)
    (answer : Except OutputError Unit) : .close answer ∉ (r.offer s es).heard := by
  induction es generalizing s with
  | nil => simp [Renderer.offer]
  | cons e es ih =>
    rw [Renderer.offer]
    cases hemit : r.emit s e with
    | mk answer s' => cases answer <;> simp [ih]

/-- A close succeeds where the renderer took all events and was closed well. -/
theorem Renderer.closing_ok_iff (r : Renderer σ) (inner : σ) (es : List Event) :
    (r.closing inner es).1 = .ok () ↔ (r.closing inner es).2.2 = allTaken es := by
  have htaken := offer_taken r inner es
  have hclose := close_not_offered r inner es
  unfold Renderer.closing
  cases hl : (r.offer inner es).last with
  | ok =>
    have hheard := htaken.1 hl
    simp [Rendered.worker, Channel.ending, Renderer.traced, hheard, allTaken]
  | refused x =>
    have hheard : (r.offer inner es).heard ≠ es.map (.event · .ok) := by
      intro h
      rw [htaken.2 h] at hl
      cases hl
    refine ⟨fun h => (by cases h), fun h => absurd ?_ hheard⟩
    exact (List.append_inj' h rfl).1
  | broken =>
    refine ⟨fun h => (by cases h), fun h => absurd ?_ (hclose (.ok ()))⟩
    have hheard : (r.offer inner es).heard = allTaken es := h
    rw [hheard]
    simp [allTaken]

/-! ## A channel and its client -/

namespace Channel

/-- A call of a client. -/
inductive Call where
  | emit (e : Event)
  | close
  deriving Repr, DecidableEq

/-- A call with its answer. -/
structure Reply where
  call : Call
  answer : Except OutputError Unit

namespace Reply

/-- An event that is taken. -/
def taken (e : Event) : Reply := ⟨.emit e, .ok ()⟩

/-- A call on a channel that is closed: an event is refused, and closing again does nothing. -/
def late : Call → Reply
  | .emit e => ⟨.emit e, .error .closed⟩
  | .close => ⟨.close, .ok ()⟩

end Reply

/-- A channel in use. Its client may have hung up, and waits then for the worker. -/
structure Link (σ : Type) where
  channel : Channel σ
  waits : Bool

/-- What can happen on a channel, with the replies that the client has got: the client emits, or
hangs up, and the worker takes an event at any time; once nothing is queued any more, a client that
has hung up gets its answer. -/
inductive Uses (r : Renderer σ) (new : Channel σ) : List Reply → Link σ → Prop
  | start : Uses r new [] ⟨new, false⟩
  | work {rs : List Reply} {c : Channel σ} {waits : Bool} :
      Uses r new rs ⟨c, waits⟩ → Uses r new rs ⟨c.step r, waits⟩
  | emit {rs : List Reply} {c : Channel σ} (e : Event) :
      Uses r new rs ⟨c, false⟩ → Uses r new (rs ++ [⟨.emit e, (c.emit e).1⟩]) ⟨(c.emit e).2, false⟩
  | hangUp {rs : List Reply} {c : Channel σ} : Uses r new rs ⟨c, false⟩ → Uses r new rs ⟨c, true⟩
  | close {rs : List Reply} {c : Channel σ} : Uses r new rs ⟨c, true⟩ → c.queue = #[] →
      Uses r new (rs ++ [⟨.close, (c.close r).1⟩]) ⟨(c.close r).2, false⟩

namespace Uses

variable {r : Renderer σ} {new : Channel σ} {rs : List Reply} {c : Channel σ} {waits : Bool}

theorem steps (h : Uses r new rs ⟨c, waits⟩) (n : Nat) : Uses r new rs ⟨c.steps r n, waits⟩ := by
  induction n generalizing c with
  | zero => exact h
  | succ n ih => exact ih h.work

/-- A client that waits gets the answer of a close that is not waited for. -/
theorem answered (h : Uses r new rs ⟨c, true⟩) :
    ∃ c', Uses r new (rs ++ [⟨.close, (c.close r).1⟩]) ⟨c', false⟩ := by
  have hclose := (h.steps c.queue.size).close (c.queue_of_steps r)
  rw [Channel.close_steps] at hclose
  exact ⟨_, hclose⟩

end Uses

/-- A channel in use either takes events, or was closed behind some. -/
inductive Stage (r : Renderer σ) (new : σ) : List Reply → Channel (σ × List Heard) → Prop
  | taking (es : List Event) {c : Channel (σ × List Heard)} : c.isOpen = true →
      c.outcome r.traced = Channel.takeAll r.traced (.waiting none) (new, []) es →
      Stage r new (es.map .taken) c
  | closed (es : List Event) (later : List Call) {c : Channel (σ × List Heard)} :
      c.isOpen = false → c.queue = #[] → c.inner = (r.closing new es).2 →
      Stage r new (es.map .taken ++ ⟨.close, (r.closing new es).1⟩ :: later.map .late) c

namespace Stage

variable {r : Renderer σ} {new : σ} {rs : List Reply} {c : Channel (σ × List Heard)}

private theorem offer_ne_broken (hr : ∀ s e, (r.emit s e).1 ≠ .broken) (s : σ) (es : List Event) :
    (r.offer s es).last ≠ .broken := by
  induction es generalizing s with
  | nil => simp [Renderer.offer]
  | cons e es ih =>
    have he := hr s e
    rw [Renderer.offer]
    split
    · exact ih _
    · rename_i hemit
      rwa [hemit] at he

private theorem work (h : Stage r new rs c) : Stage r new rs (c.step r.traced) := by
  cases h with
  | taking es hc hout =>
    exact .taking es ((Channel.isOpen_step ..).trans hc) ((Channel.outcome_step ..).trans hout)
  | closed es later hc hq hin =>
    have hstep : c.step r.traced = c := by simp [Channel.step, hq]
    rw [hstep]
    exact .closed es later hc hq hin

private theorem emit (hr : ∀ s e, (r.emit s e).1 ≠ .broken) (h : Stage r new rs c) (e : Event) :
    Stage r new (rs ++ [⟨.emit e, (c.emit e).1⟩]) (c.emit e).2 := by
  cases h with
  | taking es hc hout =>
    have hlast := offer_ne_broken hr new es
    have halive : (c.outcome r.traced).1 ≠ .dead := by
      rw [hout, Channel.takeAll_waiting]
      intro hdead
      cases hl : (r.offer new es).last <;> simp_all [Rendered.worker]
    obtain ⟨hok, hc', hout'⟩ := Channel.emit_alive r.traced hc (Channel.worker_alive halive) e
    rw [hok, show es.map Reply.taken ++ [⟨.emit e, .ok ()⟩] = (es ++ [e]).map Reply.taken by
      simp [Reply.taken]]
    refine .taking (es ++ [e]) hc' ?_
    rw [hout', hout]
    simp [Channel.takeAll]
  | closed es later hc hq hin =>
    rw [Channel.emit_closed hc]
    have hlate : later.map Reply.late ++ [⟨.emit e, .error .closed⟩] =
        (later ++ [Call.emit e]).map Reply.late := by simp [Reply.late]
    rw [List.append_assoc, List.cons_append, hlate]
    exact .closed es (later ++ [.emit e]) hc hq hin

private theorem close (h : Stage r new rs c) :
    Stage r new (rs ++ [⟨.close, (c.close r.traced).1⟩]) (c.close r.traced).2 := by
  cases h with
  | taking es hc hout =>
    have hclosing : Channel.ending r.traced (c.outcome r.traced).1 (c.outcome r.traced).2 =
        r.closing new es := by
      rw [hout, Channel.takeAll_waiting]
      rfl
    rw [Channel.close_open _ hc, hclosing]
    exact .closed es [] rfl rfl rfl
  | closed es later hc hq hin =>
    rw [Channel.close_closed _ hc]
    have hlate : later.map Reply.late ++ [⟨.close, .ok ()⟩] =
        (later ++ [Call.close]).map Reply.late := by simp [Reply.late]
    rw [List.append_assoc, List.cons_append, hlate]
    exact .closed es (later ++ [.close]) hc hq hin

/-- Every channel in use is in a stage, whatever its worker does. -/
theorem of_uses (hr : ∀ s e, (r.emit s e).1 ≠ .broken) {u : Link (σ × List Heard)}
    (h : Uses r.traced (.opened (new, [])) rs u) : Stage r new rs u.channel := by
  induction h with
  | start => exact .taking [] rfl rfl
  | work _ ih => exact ih.work
  | emit e _ ih => exact ih.emit hr e
  | hangUp _ ih => exact ih
  | close _ _ ih => exact ih.close

end Stage

/-! ## Delivery -/

private theorem calls_of_late (later : List Call) :
    (later.map Reply.late).map Reply.call = later := by
  rw [List.map_map]
  refine (List.map_congr_left fun call _ => ?_).trans later.map_id
  cases call <;> rfl

private theorem calls_of_taken (es : List Event) :
    (es.map Reply.taken).map Reply.call = es.map Call.emit := by
  rw [List.map_map]
  rfl

/-- The first close divides the calls. -/
private theorem calls_split {es es' : List Event} {later later' : List Call}
    (h : es.map Call.emit ++ .close :: later = es'.map Call.emit ++ .close :: later') :
    es = es' ∧ later = later' := by
  induction es generalizing es' with
  | nil => cases es' <;> simp_all
  | cons e es ih =>
    cases es' with
    | nil => simp at h
    | cons e' es' =>
      simp only [List.map_cons, List.cons_append, List.cons.injEq, Call.emit.injEq] at h
      obtain ⟨rfl, hrest⟩ := h
      obtain ⟨rfl, rfl⟩ := ih hrest
      exact ⟨rfl, rfl⟩

private theorem takeAll_prefix (r : Renderer σ) (w : Worker) (s : σ × List Heard)
    (es : List Event) : s.2 <+: (Channel.takeAll r.traced w s es).2.2 := by
  by_cases hw : w = .waiting none
  · subst hw
    rw [Channel.takeAll_waiting]
    exact List.prefix_append _ _
  · have hsame : (Channel.takeAll r.traced w s es).2.2 = s.2 := by
      rw [Channel.takeAll_ne_waiting _ hw]
    exact hsame ▸ List.prefix_rfl

private theorem output_emit (r : Renderer σ) (s : σ) (e : Event) :
    (r.output.emit s e).2 = (r.emit s e).2 := by
  unfold Renderer.output
  dsimp only
  split <;> simp_all

private theorem offer_of_ok {r : Renderer σ} (hr : ∀ s e, (r.emit s e).1 = .ok) (s : σ)
    (heard : List Heard) (es : List Event) :
    es.foldl (fun s e => (r.traced.output.emit s e).2) (s, heard) =
      ((r.offer s es).inner, heard ++ (r.offer s es).heard) := by
  induction es generalizing s heard with
  | nil => simp [Renderer.offer]
  | cons e es ih =>
    have he := hr s e
    have hfirst : (r.traced.output.emit (s, heard) e).2 =
        ((r.emit s e).2, heard ++ [.event e (r.emit s e).1]) := output_emit ..
    rw [List.foldl_cons, Renderer.offer, hfirst, ih]
    cases hemit : r.emit s e with
    | mk answer s' =>
      rw [hemit] at he
      cases he
      simp

/-- Delivery does not depend on when the worker gets on. A channel takes every event before it is
closed. Its renderer gets the events in order, up to the first that it refuses, and is then closed,
once. The close is answered with that refusal, or else with what closing the renderer comes to; all
later events are refused, and closing again does nothing. A close is always answered. -/
theorem delivery {r : Renderer σ} (hr : ∀ s e, (r.emit s e).1 ≠ .broken) {new : σ}
    {rs : List Reply} {u : Link (σ × List Heard)} (h : Uses r.traced (.opened (new, [])) rs u)
    (es : List Event) (later : List Call) :
    let told := r.offer new es
    let closed := r.close told.inner
    (rs.map Reply.call = es.map .emit →
      rs = es.map .taken ∧ u.channel.inner.2 <+: told.heard) ∧
    (rs.map Reply.call = es.map .emit ++ .close :: later →
      rs = es.map .taken ++
        ⟨.close, match told.last with | .refused x => .error x | _ => closed.1⟩ ::
          later.map .late ∧
      u.channel.inner = (closed.2, told.heard ++ [.close closed.1]) ∧
      ((∀ s e, (r.emit s e).1 = .ok) → u.channel.inner = (r.traced.output.close
        (es.foldl (fun s e => (r.traced.output.emit s e).2) (new, []))).2)) ∧
    (u.waits = true → ∃ c, Uses r.traced (.opened (new, []))
      (rs ++ [⟨.close, (u.channel.close r.traced).1⟩]) ⟨c, false⟩) := by
  have hclosing : r.closing new es =
      (match (r.offer new es).last with
        | .refused x => .error x
        | _ => (r.close (r.offer new es).inner).1,
        (r.close (r.offer new es).inner).2,
        (r.offer new es).heard ++ [.close (r.close (r.offer new es).inner).1]) := by
    have hlast := Stage.offer_ne_broken hr new es
    unfold Renderer.closing
    cases hl : (r.offer new es).last with
    | broken => exact absurd hl hlast
    | ok => rfl
    | refused x => rfl
  have hstage := Stage.of_uses hr h
  obtain ⟨c, waits⟩ := u
  dsimp only at hstage ⊢
  refine ⟨fun hcalls => ?_, fun hcalls => ?_, fun hwaits => ?_⟩
  · cases hstage with
    | taking es' hc hout =>
      rw [calls_of_taken] at hcalls
      obtain rfl : es' = es := (List.map_inj_right fun _ _ => Call.emit.inj).1 hcalls
      refine ⟨rfl, ?_⟩
      have hheard := takeAll_prefix r c.worker c.inner c.queue.toList
      have hall : Channel.takeAll r.traced c.worker c.inner c.queue.toList =
          Channel.takeAll r.traced (.waiting none) (new, []) es' := hout
      rwa [hall, Channel.takeAll_waiting, List.nil_append] at hheard
    | closed es' later' =>
      have hmem : Call.close ∈ es.map Call.emit := by
        rw [← hcalls]
        simp
      simp at hmem
  · cases hstage with
    | taking es' hc hout =>
      rw [calls_of_taken] at hcalls
      have hmem : Call.close ∈ es'.map Call.emit := by
        rw [hcalls]
        simp
      simp at hmem
    | closed es' later' hc hq hin =>
      rw [List.map_append, List.map_cons, calls_of_taken, calls_of_late] at hcalls
      obtain ⟨rfl, rfl⟩ := calls_split hcalls
      rw [hclosing] at hin ⊢
      refine ⟨rfl, hin, fun hok => ?_⟩
      rw [hin, offer_of_ok hok]
      rfl
  · subst hwaits
    exact h.answered

/-- A scripted output as a renderer. -/
private def scripted : Renderer Scripted := Scripted.renderer.output.renderer

/-- The script of an output that refuses its second event and its close. -/
private def unwilling : Scripted := .start ⟨some 1, none, true⟩

/-- A worker that is behind when its renderer refuses the second of three events. -/
theorem delivery_of_refusal :
    (∀ s e, (scripted.emit s e).1 ≠ .broken) ∧
    ∃ rs u, Uses scripted.traced (.opened (unwilling, [])) rs u ∧
      rs.map Reply.call = [.message "a", .message "b", .message "c"].map .emit ++
        .close :: [.emit (.message "d"), .close] ∧
      rs = [⟨.emit (.message "a"), .ok ()⟩, ⟨.emit (.message "b"), .ok ()⟩,
        ⟨.emit (.message "c"), .ok ()⟩, ⟨.close, .error (.refused "emit 1 refused")⟩,
        ⟨.emit (.message "d"), .error .closed⟩, ⟨.close, .ok ()⟩] ∧
      u.channel.inner.2 = [.event (.message "a") .ok,
        .event (.message "b") (.refused (.refused "emit 1 refused")),
        .close (.error (.refused "close refused"))] := by
  have hr : ∀ s e, (scripted.emit s e).1 ≠ .broken := by
    intro s e
    unfold scripted Output.renderer
    dsimp only
    split <;> simp
  -- The worker takes one event before the others are sent, and the rest while the client waits.
  have hsent : Uses scripted.traced (.opened (unwilling, [])) _ _ :=
    ((Uses.start.emit (.message "a")).work.emit (.message "b")).emit (.message "c")
  obtain ⟨_, hclosed⟩ := hsent.hangUp.answered
  obtain ⟨_, hlate⟩ := (hclosed.emit (.message "d")).hangUp.answered
  obtain ⟨hreplies, hinner, -⟩ := (delivery hr hlate [.message "a", .message "b", .message "c"]
    [.emit (.message "d"), .close]).2.1 rfl
  exact ⟨hr, _, _, hlate, rfl, hreplies, congrArg Prod.snd hinner⟩

end Channel
end Rollout
