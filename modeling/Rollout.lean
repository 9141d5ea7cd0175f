import Rollout.Main
import Rollout.Output.Scripted
import Rollout.Proofs.Session.Course
import Rollout.Proofs.Session.Interruption
import Rollout.Proofs.Session.Acting
import Rollout.Proofs.Session.GlobalService
import Rollout.Proofs.Session.History
import Rollout.Proofs.Session.Outcome
import Rollout.Proofs.Update.Overall
import Rollout.Proofs.Session.Channel
import Rollout.Proofs.Output.Terminal
import Rollout.Proofs.Snapshot.Wire
import Rollout.Proofs.Session.Discipline
import Rollout.Proofs.Session.Rollback
import Rollout.Proofs.Session.Reports
import Rollout.Proofs.Session.Alike
import Rollout.Proofs.Reduction
import Rollout.Proofs.Update.Verdict
import Rollout.Proofs.Update.Repeat
import Rollout.Proofs.Json.Value
import Rollout.Proofs.Output.JsonLines
import Rollout.Proofs.Update.Retry
import Rollout.Proofs.Update.Units
import Rollout.Proofs.Output.Rows
import Rollout.Proofs.Session.Opening
import Rollout.Proofs.Session.Stability
import Rollout.Proofs.Session.Announcement
import Rollout.Proofs.Url.Percent
import Rollout.Proofs.Url.Segments
import Rollout.Proofs.Url.Parse
import Rollout.Proofs.Url.Layout
import Rollout.Proofs.Url.Host
import Rollout.Proofs.Engine.Target
import Rollout.Proofs.Config.Layers
import Rollout.Proofs.Engine.TaskFilter
import Rollout.Proofs.Shorten
import Rollout.Proofs.Config.DockerHost
import Rollout.Proofs.Json.Lexeme
import Rollout.Proofs.Json.Numeral
import Rollout.Proofs.Json.Spelling
import Rollout.Proofs.Json.Exact
import Rollout.Proofs.Json.Members
import Rollout.Proofs.Json.Orderly
import Rollout.Proofs.Snapshot.Forms
import Rollout.Proofs.Snapshot.Edits
import Rollout.Proofs.Bar
