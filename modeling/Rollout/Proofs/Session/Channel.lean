import Rollout.Proofs.Output.Channel
import Rollout.Proofs.Session.Taking

/-!
A session whose output is a channel. However the worker of the channel gets on, a session that
succeeds has lost none of its output: the renderer took every event, and its close succeeded
(`run_over_channel`).
-/

namespace Rollout

/-! ## Outputs that feed a channel -/

/-- An output that hands its events to a channel. The worker takes any number of events before and
after each of them, while the output rests, and before it is closed. -/
structure Output.Feeds (o : Output τ) (r : Renderer σ) (channel : τ → Channel σ) : Prop where
  emit : ∀ s e, ∃ before after,
    let emitted := ((channel s).steps r before).emit e
    (o.emit s e).1 = emitted.1 ∧ channel (o.emit s e).2 = emitted.2.steps r after
  rest : ∀ s, ∃ n, channel (o.rest s) = (channel s).steps r n
  close : ∀ s, ∃ before,
    let closed := ((channel s).steps r before).close r
    (o.close s).1 = closed.1 ∧ channel (o.close s).2 = closed.2

theorem Channel.drain_eq_steps (r : Renderer σ) (c : Channel σ) :
    c.drain r = c.steps r c.queue.size := by
  obtain ⟨hout, hopen⟩ := c.outcome_steps r c.queue.size
  have hqueue := c.queue_of_steps r
  generalize c.steps r c.queue.size = d at hout hopen hqueue
  obtain ⟨inner, queue, worker, isOpen⟩ := d
  obtain rfl : queue = #[] := hqueue
  obtain rfl : isOpen = c.isOpen := hopen
  rw [drain_eq, ← hout]
  rfl

/-- A channel whose worker takes all that is queued whenever the session rests. -/
theorem Renderer.channel_feeds (r : Renderer σ) : r.channel.Feeds r id where
  emit _ _ := ⟨0, 0, rfl, rfl⟩
  rest c := ⟨_, c.drain_eq_steps r⟩
  close _ := ⟨0, rfl, rfl⟩

/-- A channel with the numbers of events that its worker takes before the calls to come. -/
structure Paced (σ : Type) where
  channel : Channel σ
  pace : Nat → Nat

/-- The worker takes events as it is told. -/
def Paced.work (r : Renderer σ) (p : Paced σ) : Paced σ :=
  ⟨p.channel.steps r (p.pace 0), fun n => p.pace (n + 1)⟩

/-- A channel whose worker gets on at the given pace. -/
def Renderer.paced (r : Renderer σ) : Output (Paced σ) where
  emit p e :=
    let p := p.work r
    ((p.channel.emit e).1, { p with channel := (p.channel.emit e).2 })
  close p :=
    let p := p.work r
    ((p.channel.close r).1, { p with channel := (p.channel.close r).2 })
  rest p := p.work r

theorem Renderer.paced_feeds (r : Renderer σ) : r.paced.Feeds r Paced.channel where
  emit p _ := ⟨p.pace 0, 0, rfl, rfl⟩
  rest p := ⟨p.pace 0, rfl⟩
  close p := ⟨p.pace 0, rfl, rfl⟩

namespace Output.Feeds

variable {o : Output τ} {r : Renderer σ} {channel : τ → Channel (σ × List Heard)} {start s : τ}
  {inner : σ} {es : List Event}

/-- A channel that took events will have its worker offer them, in order. -/
theorem taking (h : o.Feeds r.traced channel) (hs : channel start = .opened (inner, []))
    (ht : o.Took start es s) :
    (channel s).isOpen = true ∧ (channel s).outcome r.traced =
      Channel.takeAll r.traced (.waiting none) (inner, []) es := by
  induction ht with
  | new =>
    rw [hs]
    exact ⟨rfl, rfl⟩
  | @emit es s e _ hok ih =>
    obtain ⟨hopen, hout⟩ := ih
    obtain ⟨before, after, hanswer, hafter⟩ := h.emit s e
    obtain ⟨hout₁, hopen₁⟩ := (channel s).outcome_steps r.traced before
    generalize (channel s).steps r.traced before = c at hanswer hafter hout₁ hopen₁
    have hc : c.isOpen = true := hopen₁.trans hopen
    have halive : c.worker ≠ .dead := by
      intro hdead
      have hstopped : (c.emit e).1 = .error .rendererStopped := by
        simp [Channel.emit, hc, hdead]
      rw [hok, hstopped] at hanswer
      cases hanswer
    obtain ⟨-, hopen₂, hout₂⟩ := c.emit_alive r.traced hc halive e
    obtain ⟨hout₃, hopen₃⟩ := (c.emit e).2.outcome_steps r.traced after
    rw [hafter]
    refine ⟨hopen₃.trans hopen₂, ?_⟩
    rw [hout₃, hout₂, hout₁, hout]
    simp [Channel.takeAll]
  | @rest es s _ ih =>
    obtain ⟨n, hrest⟩ := h.rest s
    obtain ⟨hout, hopen⟩ := (channel s).outcome_steps r.traced n
    rw [hrest]
    exact ⟨hopen.trans ih.1, hout.trans ih.2⟩

/-- Closing is answered as by a channel that took the same events. -/
theorem closing (h : o.Feeds r.traced channel) (hs : channel start = .opened (inner, []))
    (ht : o.Took start es s) :
    (o.close s).1 = (r.closing inner es).1 ∧
      (channel (o.close s).2).inner = (r.closing inner es).2 := by
  obtain ⟨hopen, hout⟩ := h.taking hs ht
  obtain ⟨before, hanswer, hafter⟩ := h.close s
  obtain ⟨hout₁, hopen₁⟩ := (channel s).outcome_steps r.traced before
  have hclosing : Channel.ending r.traced ((channel s).outcome r.traced).1
      ((channel s).outcome r.traced).2 = r.closing inner es := by
    rw [hout, Channel.takeAll_waiting]
    rfl
  rw [Channel.close_open _ (hopen₁.trans hopen), hout₁, hclosing] at hanswer hafter
  exact ⟨hanswer, congrArg Channel.inner hafter⟩

end Output.Feeds

/-- Is this a call that failed? -/
def Heard.isFailure : Heard → Bool
  | .event _ answer => answer != .ok
  | .close (.error _) => true
  | .close (.ok ()) => false

namespace Session

/-- A session over a channel, whatever its worker, its script and its interruption: it succeeds
exactly when its own run succeeds and the renderer took every event, in order, and was closed well.
So it fails where the renderer refused an event, broke down or was not closed well; and a failure of
its own run stays its result. -/
theorem run_over_channel {o : Output τ} {r : Renderer σ} {channel : τ → Channel (σ × List Heard)}
    (ho : o.Feeds r.traced channel) {start : τ} {inner : σ}
    (hs : channel start = .opened (inner, [])) (options : Options) (m : Option Moment)
    (id : String) (script : Script) (count : Nat) :
    let own := ownRun o start options m id script count
    let whole := run o start options m id script count
    let heard := (channel whole.2.output).inner.2
    (whole.1 = .done (.ok ()) ↔ own.1 = .done (.ok ()) ∧ heard = allTaken whole.2.events) ∧
    (∀ call ∈ heard, call.isFailure = true → ∀ result, whole.1 = .done result →
      ∃ f, result = .error f) ∧
    (∀ f, own.1 = .done (.error f) → whole.1 = .done (.error f)) := by
  intro own whole heard
  have hwhole : whole = finish o own := rfl
  have htook : own.1.Unrefused → own.2.Took o start := run_took options id script count
  clear_value own whole
  subst hwhole
  obtain ⟨e, last⟩ := own
  have hiff : (finish o (e, last)).1 = .done (.ok ()) ↔
      e = .done (.ok ()) ∧ heard = allTaken (finish o (e, last)).2.events := by
    cases e with
    | unfinished => simp [finish]
    | done result =>
      cases result with
      | error f => simp [finish]
      | ok =>
        obtain ⟨hanswer, hinner⟩ := ho.closing hs (htook (by simp [Ending.Unrefused]))
        have hheard : heard = (r.closing inner last.events).2.2 := congrArg Prod.snd hinner
        have hevents : (finish o (.done (.ok ()), last)).2.events = last.events := rfl
        have hend : (finish o (.done (.ok ()), last)).1 = .done (.ok ()) ↔
            (o.close last.output).1 = .ok () := by
          simp only [finish]
          cases (o.close last.output).1 <;> simp
        rw [hend, hanswer, r.closing_ok_iff, ← hheard, hevents]
        simp
  refine ⟨hiff, fun call hcall hfail result hresult => ?_, fun f hf => ?_⟩
  · cases result with
    | error f => exact ⟨f, rfl⟩
    | ok =>
      obtain ⟨-, hheard⟩ := hiff.1 hresult
      rw [hheard, allTaken, List.mem_append, List.mem_map, List.mem_singleton] at hcall
      rcases hcall with ⟨_, -, rfl⟩ | rfl <;> cases hfail
  · obtain rfl : e = .done (.error f) := hf
    rfl

/-- A session that was interrupted before it started. -/
private def detached (o : Output τ) (start : τ) : Ending × Run τ :=
  run o start ⟨200, 5000⟩ (some .start) "web" (fun _ => ⟨.silent, .silent, .silent, 0⟩) 1

/-- A renderer that breaks down on its first event, under a worker that takes nothing before the
close. -/
private def fragile : Paced (Scripted × List Heard) :=
  ⟨.opened (.start ⟨none, some 0, false⟩, []), fun _ => 0⟩

/-- A renderer that takes everything. -/
private def robust : Channel (Scripted × List Heard) := .opened (.start ⟨none, none, false⟩, [])

/-- A session that detaches. With a renderer that breaks down on its first message it learns of that
only at its close, and fails; with a renderer that takes both messages it succeeds. -/
theorem run_over_channel_detached :
    let r := Scripted.renderer.traced
    let failed := detached r.paced fragile
    let succeeded := detached r.channel robust
    r.paced.Feeds r Paced.channel ∧ r.channel.Feeds r id ∧
      fragile.channel = .opened (.start ⟨none, some 0, false⟩, []) ∧
      id robust = .opened (.start ⟨none, none, false⟩, []) ∧
      failed.2.events = detachMessages "web" ∧
      failed.2.output.channel.inner.2 =
        [.event (.message "Operation continuing in background.") .broken] ∧
      (∀ result, failed.1 = .done result → ∃ f, result = .error f) ∧
      failed.1 = .done (.error (.output .rendererDied)) ∧
      succeeded.1 = .done (.ok ()) ∧
      succeeded.2.output.inner.2 = allTaken (detachMessages "web") := by
  intro r failed succeeded
  have hpaced := Scripted.renderer.traced.paced_feeds
  have hchannel := Scripted.renderer.traced.channel_feeds
  have hfragile : fragile.channel = .opened (.start ⟨none, some 0, false⟩, []) := rfl
  have hrobust : id robust = .opened (.start ⟨none, none, false⟩, []) := rfl
  have hfailed := run_over_channel hpaced hfragile ⟨200, 5000⟩ (some .start) "web"
    (fun _ => ⟨.silent, .silent, .silent, 0⟩) 1
  have hsucceeded := run_over_channel hchannel hrobust ⟨200, 5000⟩ (some .start) "web"
    (fun _ => ⟨.silent, .silent, .silent, 0⟩) 1
  have hheard : failed.2.output.channel.inner.2 =
      [.event (.message "Operation continuing in background.") .broken] := rfl
  have hbroken := hfailed.2.1 _ (hheard ▸ List.mem_singleton_self _) rfl
  exact ⟨hpaced, hchannel, hfragile, hrobust, rfl, hheard, hbroken, rfl,
    hsucceeded.1.2 ⟨rfl, rfl⟩, rfl⟩

end Session
end Rollout
