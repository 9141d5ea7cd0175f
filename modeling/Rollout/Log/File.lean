import Rollout.Files

/-!
The log file of a session. Every session begins with a banner.
-/
namespace Rollout.Log

/-- The banner of a session that starts at the given time. -/
def banner (time : String) : String := "\n=== converge session started at " ++ time ++ " ===\n\n"

/-- Opens a log for appending, with the directories above it. -/
def openLog (fs : Files) (path time : String) : Except FileError Files := do
  let fs ← match Path.parent? path with
    | some parent => fs.makeDirectories parent (parent.length + 1)
    | none => .ok fs
  fs.append path (banner time).toUTF8.toList

end Rollout.Log
