import Rollout.Engine.Exchange
import Rollout.Engine.Request
import Rollout.Unicode.Space

/-!
The client of an engine. Its base is a URL text; a request adds a path and parameters to it before
the whole is read as a URL.
-/
namespace Rollout

structure Client where
  base : String
  deriving Repr, DecidableEq

namespace Client

/-- Blanks around a base and slashes behind it do not count, and `tcp` stands for `http`. -/
def normalize (raw : String) : List Char :=
  let trimmed := Unicode.trimEnd (· == '/') (Unicode.trim raw.toList)
  let tcp := "tcp://".toList
  if tcp.isPrefixOf trimmed then "http://".toList ++ trimmed.drop tcp.length else trimmed

/-- A client for a base, which must be a URL of one of the two schemes. -/
def ofText (raw : String) : Except EngineError Client :=
  let base := normalize raw
  if "http://".toList.isPrefixOf base || "https://".toList.isPrefixOf base then
    match Url.read none base with
    | .ok _ => .ok ⟨String.ofList base⟩
    | .error flaw => .error (.invalidUrl (raw ++ ": " ++ flaw.message))
  else .error (.invalidUrl raw)

/-- The URL of a request. -/
def url (c : Client) (r : Request) : Except EngineError Url :=
  let text := c.base ++ r.path
  match Url.read none text.toList with
  | .ok (.url u) => .ok (u.withPairs r.pairs)
  | .ok (.plain _) => .error (.invalidUrl text)
  | .error flaw => .error (.invalidUrl (text ++ ": " ++ flaw.message))

/-- Asks the engine for a value. -/
def ask [Monad m] (c : Client) (server : Server m) (r : Request) (w : Wire α) :
    m (Fetched EngineError α) := do
  match c.url r with
  | .error e => return ⟨[], some (.error e)⟩
  | .ok url =>
    let fetched ← server.fetch url
    let result := fetched.result.map fun
      | .ok response => response.read w
      | .error cause => .error (.http cause)
    return ⟨fetched.asked, result⟩

end Client
end Rollout
