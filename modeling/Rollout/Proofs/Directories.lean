import Rollout.Directories

/-!
The directory for the settings of a user, as the platform documents it, apart from how it is found.
Settings lie in a directory that a variable names, or else in the home directory of the user; and
that is named by a variable, or else by the account (`IsConfigHome`).
-/

namespace Rollout

namespace Environment

variable {env : Environment} {account : Option String}

end Environment
end Rollout
