import Rollout.Environment
import Rollout.Path

/-!
Where the program keeps its files, and how a system finds the directories of a user. A directory
that a variable names has to be absolute; otherwise it lies in the home directory.
-/
namespace Rollout

namespace Directories

def configDir? (env : Environment) : Option String :=
  env.dirs.config.map fun d => Path.join d "converge"

/-- The file that session logs are added to. -/
def logPath (env : Environment) : String :=
  match env.dirs.data with
  | some d => Path.join (Path.join d "converge") "converge.log"
  | none => "converge.log"

end Directories

namespace Environment

/-- The home directory: the one that a variable names, or else that of the account. -/
def home? (env : Environment) (account : Option String) : Option String :=
  ((env.path? "HOME").filter (· != "")) <|> account

/-- The directory that a variable names, or one in the home directory. -/
def standardDir? (env : Environment) (account : Option String) (name inHome : String) :
    Option String :=
  ((env.path? name).filter Path.isAbsolute)
    <|> ((env.home? account).map fun home => Path.join home inHome)

/-- The environment with some variables, for an account with a home directory. -/
def ofVars (vars : List (String × List UInt8)) (account : Option String) : Environment :=
  let env : Environment := ⟨vars, ⟨none, none⟩⟩
  ⟨vars, env.standardDir? account "XDG_CONFIG_HOME" ".config",
    env.standardDir? account "XDG_DATA_HOME" ".local/share"⟩

end Environment
end Rollout
