import Rollout.Engine.Error
import Rollout.Snapshot.Wire
import Rollout.Url.Sendable

/-!
Requests and responses. A response may send the client elsewhere; after that it is the value that
was asked for, or an error that the engine describes.
-/
namespace Rollout

/-- A response. One that is cut ends before all of its body was sent. -/
structure Response where
  status : Nat
  body : List UInt8
  location : Option String
  isCut : Bool
  deriving Repr, DecidableEq

/-- What comes back: no connection at all, one that is dropped without an answer, one on which no
answer ever comes, or an answer. -/
inductive Reply where
  | refused
  | dropped
  | silent
  | answer (r : Response)
  deriving Repr, DecidableEq

/-- A server, whose replies come with the effects of `m`. -/
structure Server (m : Type → Type) where
  reply : Url → m Reply

/-- What became of a request: the URLs that were asked for, and the result if there ever is one. -/
structure Fetched (ε : Type) (α : Type) where
  asked : List Url
  result : Option (Except ε α)

namespace Response

def isRedirect (status : Nat) : Bool := status ∈ [301, 302, 303, 307, 308]

/-- Where a response sends the client. A location that cannot be read, or not be put into a
request, sends it nowhere. -/
def next? (r : Response) (url : Url) : Option Url.Goal :=
  if isRedirect r.status then
    (r.location.bind fun text => (Url.read (some url) text.toList).toOption).filter
      Url.Goal.isSendable
  else none

/-- Responses that have no body whatever is sent behind them. -/
def isBare (r : Response) : Bool := r.status < 200 || r.status = 204 || r.status = 304

/-- The body, if all of it came. -/
def content? (r : Response) : Option (List UInt8) :=
  if r.isBare then some [] else if r.isCut then none else some r.body

open Json in
/-- The description that an engine gives of an error. -/
def errorForm : Record String where
  name := "EngineErrorBody"
  fields := [.must "message" Reader.text fun x _ => x]
  blank := ""

/-- The message of an error: what the engine says, or else the whole body. -/
def errorMessage (r : Response) : String :=
  let body := Utf8.shown (r.content?.getD [])
  match errorForm.reader.run (Json.Text.ofString body) with
  | .ok message => message
  | .error _ => body

/-- The value that was asked for. -/
def read (r : Response) (w : Wire α) : Except EngineError α :=
  if 200 ≤ r.status ∧ r.status < 300 then
    match r.content? with
    | none => .error (.http .receiving)
    | some body => (w.read (Utf8.scalars body)).mapError .invalidResponse
  else if r.status = 404 then .error (.notFound r.errorMessage)
  else .error (.status r.status r.errorMessage)

end Response

/-- Redirects that are followed. -/
def maxHops : Nat := 10

/-- The URL that is asked for next, if a goal can be asked for at all. -/
def Url.Goal.step (g : Url.Goal) : Except Transport Url :=
  match g with
  | .url u =>
    if u.scheme.isWeb then .ok u.asked else .error (.building u.asked.text)
  | .plain text => .error (.building (String.ofList text))

/-- Asks for a URL, and for the ones that the responses lead to. `first` is the URL that a failure
is told of. -/
def Server.follow [Monad m] (server : Server m) (first : String) (hops : Nat) (url : Url) :
    m (Fetched Transport Response) := do
  match ← server.reply url with
  | .refused => return ⟨[], some (.error (.sending first))⟩
  | .dropped => return ⟨[url], some (.error (.sending first))⟩
  | .silent => return ⟨[url], none⟩
  | .answer r =>
    match r.next? url, hops with
    | none, _ => return ⟨[url], some (.ok r)⟩
    | some _, 0 => return ⟨[url], some (.error (.redirecting url.text))⟩
    | some goal, hops + 1 =>
      match goal.step with
      | .error cause => return ⟨[url], some (.error cause)⟩
      | .ok next =>
        let rest ← server.follow first hops next
        return { rest with asked := url :: rest.asked }

/-- What becomes of a request for a URL. -/
def Server.fetch [Monad m] (server : Server m) (url : Url) : m (Fetched Transport Response) :=
  let url := url.withoutUser
  if (Url.Goal.url url).isSendable then server.follow url.text maxHops url.asked
  else return ⟨[], some (.error (.building url.text))⟩

end Rollout
