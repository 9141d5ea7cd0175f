import Rollout.Output

/-!
A channel to a renderer. Events are queued without waiting; a worker takes them in order and hands
them to the renderer. Closing hangs up and waits until the worker has drained the queue and closed
the renderer. After the first refusal the worker drops what is left; a renderer that breaks down
takes the worker with it.
-/
namespace Rollout

/-- What a renderer makes of an event. -/
inductive Rendered where
  | ok
  | refused (e : OutputError)
  | broken
  deriving Repr, DecidableEq

structure Renderer (σ : Type) where
  emit : σ → Event → Rendered × σ
  close : σ → Except OutputError Unit × σ

/-- An output as a renderer: it never breaks down. -/
def Output.renderer (o : Output σ) : Renderer σ where
  emit s e :=
    match o.emit s e with
    | (.ok (), s) => (.ok, s)
    | (.error e, s) => (.refused e, s)
  close := o.close

/-- A renderer that is used directly. -/
def Renderer.output (r : Renderer σ) : Output σ where
  emit s e :=
    match r.emit s e with
    | (.ok, s) => (.ok (), s)
    | (.refused e, s) => (.error e, s)
    | (.broken, s) => (.error .rendererDied, s)
  close := r.close
  rest := id

/-- The worker waits for events, or died with its renderer. -/
inductive Worker where
  | waiting (refusal : Option OutputError)
  | dead
  deriving Repr, DecidableEq

structure Channel (σ : Type) where
  inner : σ
  queue : Array Event
  worker : Worker
  isOpen : Bool

namespace Channel

def opened (inner : σ) : Channel σ := ⟨inner, #[], .waiting none, true⟩

/-- The worker takes one event. -/
def take (r : Renderer σ) (worker : Worker) (inner : σ) (e : Event) : Worker × σ :=
  match worker with
  | .dead => (.dead, inner)
  | .waiting (some x) => (.waiting (some x), inner)
  | .waiting none =>
    match r.emit inner e with
    | (.ok, inner) => (.waiting none, inner)
    | (.refused x, inner) => (.waiting (some x), inner)
    | (.broken, inner) => (.dead, inner)

/-- The worker takes the first event that is queued, if there is one. -/
def step (r : Renderer σ) (c : Channel σ) : Channel σ :=
  match c.queue[0]? with
  | none => c
  | some e =>
    let (worker, inner) := take r c.worker c.inner e
    { c with inner, queue := c.queue.drop 1, worker }

/-- The worker takes all that is queued. -/
def drain (r : Renderer σ) (c : Channel σ) : Channel σ :=
  let (worker, inner) := c.queue.foldl (fun (w, s) e => take r w s e) (c.worker, c.inner)
  { c with inner, queue := #[], worker }

def emit (c : Channel σ) (e : Event) : Except OutputError Unit × Channel σ :=
  if !c.isOpen then (.error .closed, c)
  else if c.worker = .dead then (.error .rendererStopped, c)
  else (.ok (), { c with queue := c.queue.push e })

/-- The first close drains the queue and closes the renderer. A refusal goes before the error of
that. Closing again does nothing. -/
def close (r : Renderer σ) (c : Channel σ) : Except OutputError Unit × Channel σ :=
  if !c.isOpen then (.ok (), c)
  else
    let c := { c.drain r with isOpen := false }
    match c.worker with
    | .dead => (.error .rendererDied, c)
    | .waiting refusal =>
      let (result, inner) := r.close c.inner
      let result := match refusal with
        | some e => .error e
        | none => result
      (result, { c with inner })

end Channel

def Renderer.channel (r : Renderer σ) : Output (Channel σ) :=
  ⟨Channel.emit, Channel.close r, Channel.drain r⟩

end Rollout
