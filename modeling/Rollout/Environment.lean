import Rollout.Unicode.Utf8

/-!
The environment of a program: its variables, and the directories of the user as the system tells of
them. The value of a variable is a row of bytes; where text is wanted, one that is no text counts as
not set.
-/
namespace Rollout

/-- The directories of a user, for settings and for data, where there are any. -/
structure Directories where
  config : Option String
  data : Option String
  deriving Repr, DecidableEq

structure Environment where
  vars : List (String × List UInt8)
  dirs : Directories
  deriving Repr

namespace Environment

/-- The variables that count. -/
def names : List String :=
  ["HOME", "XDG_CONFIG_HOME", "XDG_DATA_HOME", "CONVERGE_ENV", "CONVERGE_ENGINE_URL",
    "CONVERGE_POLL_INTERVAL_MS", "CONVERGE_OUTPUT", "DOCKER_HOST", "RUST_LOG"]

def bytes? (env : Environment) (name : String) : Option (List UInt8) := env.vars.lookup name

def text? (env : Environment) (name : String) : Option String := (env.bytes? name).bind Utf8.text?

/-- The value as a path. -/
def path? (env : Environment) (name : String) : Option String := (env.bytes? name).map Utf8.shown

end Environment
end Rollout
