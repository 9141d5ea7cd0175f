import Rollout.Json.Printer

/-!
Which tasks are listed: those of a service, and perhaps only those that follow its current
settings.
-/
namespace Rollout

structure TaskFilter where
  service : String
  upToDate : Bool
  deriving Repr, DecidableEq

namespace TaskFilter

def current (service : String) : TaskFilter := ⟨service, true⟩

open Json in
/-- A JSON object of lists, with its keys in order. -/
def print (f : TaskFilter) : List Char :=
  Print.object
    ((if f.upToDate then [Print.member "_up-to-date" (Print.list Print.text ["true"])] else [])
      ++ [Print.member "service" (Print.list Print.text [f.service])])

def query (f : TaskFilter) : String := String.ofList f.print

end TaskFilter
end Rollout
