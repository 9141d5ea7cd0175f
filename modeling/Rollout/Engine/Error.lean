import Rollout.Json.Fault

/-!
Why the engine gave no answer.
-/
namespace Rollout

/-- What went wrong on the way to the engine or back. A request that is sent on names the URL that
it began with; one that cannot be made at all names its own. -/
inductive Transport where
  | building (url : String)
  | sending (url : String)
  | redirecting (url : String)
  | receiving
  deriving Repr, DecidableEq

inductive EngineError where
  | http (cause : Transport)
  | invalidResponse (fault : Json.Fault)
  | notFound (message : String)
  | status (code : Nat) (message : String)
  | invalidUrl (message : String)
  deriving Repr, DecidableEq

def Transport.message : Transport → String
  | .building url => "builder error for url (" ++ url ++ ")"
  | .sending url => "error sending request for url (" ++ url ++ ")"
  | .redirecting url => "error following redirect for url (" ++ url ++ ")"
  | .receiving => "error decoding response body"

def EngineError.message : EngineError → String
  | .http cause => "HTTP error: " ++ cause.message
  | .invalidResponse fault => "Invalid response: " ++ fault.message
  | .notFound message => "Not found: " ++ message
  | .status code message => "Engine returned " ++ toString code ++ ": " ++ message
  | .invalidUrl message => "Invalid engine URL: " ++ message

end Rollout
