import Rollout.Cli.Arguments
import Rollout.Duration
import Rollout.Engine.Client
import Rollout.Log.File
import Rollout.Log.Setting
import Rollout.Output.Channel
import Rollout.Output.Terminal
import Rollout.Session.Run

/-!
The command that watches a service. It settles the configuration, finds out where diagnostics go,
runs the session, and ends with an exit code.
-/
namespace Rollout.Cli

/-- What a program meets when it starts. `screen` is the width of the terminal that its output goes
to, and `time` what the clock shows. -/
structure World where
  env : Environment
  files : Files
  screen : Option Nat
  time : String

/-- A watch that is ready to begin. -/
structure Job where
  config : Config
  service : String
  client : Client
  filter : Log.Filter

/-- Why a command ends before its session: an error that it tells of, or a setting that brings it
down. -/
inductive Stop where
  | failure (message : String)
  | crash
  deriving Repr, DecidableEq

/-- How far a command came before its session: the lines on the error output, the files, and
whether diagnostics go to the log file. -/
structure Opening (α : Type) where
  lines : List String
  files : Files
  logsToFile : Bool
  result : α

/-- An error as the error output shows it. -/
def errorLine (message : String) : String := "Error: " ++ message

/-- The configuration of a watch: all layers, valid with and without the flags. -/
def configure (world : World) (args : Arguments) : Except ConfigError Config := do
  let config ← Config.load world.files world.env args.config
  (config.override ⟨args.engineUrl, args.interval, args.output⟩).validate

def Stop.exitCode : Stop → Nat
  | .failure _ => 1
  | .crash => 101

def Stop.lines : Stop → List String
  | .failure message => [errorLine message]
  | .crash => []

/-- What is said of a log file that cannot be opened. -/
def unopened (path message : String) : String :=
  "Cannot open " ++ path ++ ": " ++ message ++ "; logging to stderr"

/-- Sends diagnostics to the log file while bars own the screen. -/
def openDiagnostics (world : World) (config : Config) (debug : Bool) : Opening Unit :=
  if config.output = .terminal && world.screen.isSome then
    let path := Directories.logPath world.env
    match Log.openLog world.files path world.time with
    | .ok files => ⟨if debug then ["Debug log: " ++ path] else [], files, true, ()⟩
    | .error e =>
      ⟨[unopened path e.message], world.files, false, ()⟩
  else ⟨[], world.files, false, ()⟩

/-- Everything up to the session. -/
def prepare (world : World) (args : Arguments) : Opening (Except Stop Job) :=
  match configure world args with
  | .error e => ⟨[], world.files, false, .error (.failure e.message)⟩
  | .ok config =>
    let debug := args.debug || config.debug
    match Log.filterFrom (world.env.text? "RUST_LOG") (args.verbose || debug) with
    | .error _ => ⟨[], world.files, false, .error .crash⟩
    | .ok filter =>
      let opened := openDiagnostics world config debug
      let result := match Client.ofText config.engineUrl with
        | .error e => .error (.failure e.message)
        | .ok client => .ok ⟨config, args.service, client, filter⟩
      ⟨opened.lines, opened.files, opened.logsToFile, result⟩

namespace Job

def options (job : Job) : Session.Options :=
  ⟨job.config.interval * 1000000, job.config.monitor * 1000000000⟩

/-- The answers of one tick, and the URLs that were asked for with each query. -/
structure Answers where
  frame : Session.Frame
  asked : Session.Query → List Url

/-- Asks an engine all the queries of a tick. A little time passes between seeing convergence and
announcing it. -/
def ask [Monad m] (job : Job) (server : Server m) : m Answers := do
  let service ← job.client.ask server (.service job.service) Wire.service
  let tasks ← job.client.ask server (.tasks (.current job.service)) Wire.tasks
  let nodes ← job.client.ask server .nodes Wire.nodes
  return ⟨⟨⟨0, service.result⟩, ⟨0, tasks.result⟩, ⟨0, nodes.result⟩, 1⟩,
    fun
      | .service => service.asked
      | .tasks => tasks.asked
      | .nodes => nodes.asked⟩

/-- The answers of the first `count` ticks. -/
def askAll [Monad m] (job : Job) (server : Server m) : (count : Nat) → m (List Answers)
  | 0 => return []
  | count + 1 => do
    let answers ← job.ask server
    return answers :: (← askAll job server count)

/-- The diagnostics before the session. -/
def openingLines (job : Job) : List Log.Line :=
  [⟨.command, .info, "Connecting to engine at " ++ job.client.base, []⟩,
   ⟨.command, .debug, "Watching " ++ job.service ++ " with PollOptions \x7b poll_interval: "
      ++ Duration.text job.options.interval ++ ", default_monitor: "
      ++ Duration.text job.options.monitor ++ " \x7d", []⟩]

/-- The diagnostics of an entry. A request is told of once its URL is known. -/
def entryLines (job : Job) : Session.Entry → List Log.Line
  | .asked request =>
    match job.client.url request with
    | .ok url => [⟨.engine, .debug, "engine request", [⟨"url", url.text⟩]⟩]
    | .error _ => []
  | .emitted _ _ => []
  | .noted n => [n.line]
  | .interrupted => [⟨.command, .warn, "Interrupted, detaching from " ++ job.service, []⟩]

/-- The diagnostic behind the session. -/
def closingLine (job : Job) : Except Session.Failure Unit → Log.Line
  | .ok () => ⟨.command, .info, "Stopped watching " ++ job.service, []⟩
  | .error f => ⟨.command, .error, "Rollout of " ++ job.service ++ " failed: " ++ f.message, []⟩

/-- The URLs that were asked for in a session: those of each query, where a query for the service
begins a tick. -/
def askedUrls : (tick : Option Answers) → List Answers → List Session.Entry → List Url
  | _, _, [] => []
  | tick, ticks, .asked request :: rest =>
    let q := Session.Query.of request
    let (tick, ticks) := match q, ticks with
      | .service, a :: later => (some a, later)
      | _, ticks => (tick, ticks)
    (tick.map fun a => a.asked q).getD [] ++ askedUrls tick ticks rest
  | tick, ticks, _ :: rest => askedUrls tick ticks rest

end Job

/-- What a command leaves behind. On the error output the diagnostics stand between the opening
lines and the closing ones, unless they go to the log file. -/
structure Report where
  exitCode : Nat
  output : String
  opening : List String
  diagnostics : List Log.Line
  closing : List String
  logsToFile : Bool
  files : Files
  asked : List Url

/-- An output that starts in a state and keeps its text there. -/
structure Outlet where
  State : Type
  output : Output State
  start : State
  text : State → String
  clear : State → State

/-- The output of a mode. Bars and lines go through a channel. -/
def outlet (mode : OutputMode) (screen : Option Nat) : Outlet :=
  match mode with
  | .terminal =>
    ⟨_, Output.terminal.renderer.channel, .opened (.start .empty screen.isSome screen),
      fun c => c.inner.device.text,
      fun c => { c with inner := { c.inner with device := c.inner.device.clear } }⟩
  | .json =>
    ⟨_, Output.jsonLines.renderer.channel, .opened .empty, fun c => c.inner.text,
      fun c => { c with inner := c.inner.clear }⟩
  | .quiet => ⟨_, .discard, (), fun _ => "", id⟩

/-- Runs a session against an outlet: its result, its text and its journal. -/
def Job.run (job : Job) (outlet : Outlet) (moment : Option Session.Moment)
    (ticks : List Job.Answers) (limit : Nat) :
    Except Session.Failure Unit × String × List Session.Entry :=
  let silent : Session.Frame := ⟨.silent, .silent, .silent, 0⟩
  let script : Session.Script := fun k =>
    ((ticks[k]? <|> ticks.getLast?).map Job.Answers.frame).getD silent
  let (ending, r) :=
    Session.run outlet.output outlet.start job.options moment job.service script limit
  let result := match ending with
    | .done result => result
    | .unfinished => .ok ()
  (result, outlet.text r.output, r.journal.reverse)

/-- Watches a service. The engine is asked for `count` ticks, the last of which repeats. -/
def watch [Monad m] (world : World) (args : Arguments) (server : Server m)
    (moment : Option Session.Moment) (count limit : Nat) : m Report := do
  let opening := prepare world args
  match opening.result with
  | .error stop =>
    return ⟨stop.exitCode, "", opening.lines, [], stop.lines, opening.logsToFile, opening.files, []⟩
  | .ok job =>
    let ticks ← job.askAll server count
    let (result, output, journal) :=
      job.run (outlet job.config.output world.screen) moment ticks limit
    let told := job.openingLines ++ journal.flatMap job.entryLines ++ [job.closingLine result]
    let failed := match result with
      | .ok () => []
      | .error f => [errorLine f.message]
    return ⟨if failed.isEmpty then 0 else 1, output, opening.lines,
      told.filter (Log.allows job.filter), failed, opening.logsToFile, opening.files,
      Job.askedUrls none ticks journal⟩

/-- What a command leaves behind that only tells something. -/
def tell (world : World) (exitCode : Nat) (output lines : List String) : Report :=
  ⟨exitCode, String.join (output.map (· ++ "\n")), [], [], lines, false, world.files, []⟩

/-- Carries a command out. Misuse is answered with the help of the program. -/
def carryOut [Monad m] (world : World) (command : Command) (server : Server m)
    (moment : Option Session.Moment) (count limit : Nat) : m Report :=
  match command with
  | .help page => return tell world 0 page.lines []
  | .version => return tell world 0 [version] []
  | .misuse => return tell world 2 [] Page.program.lines
  | .watch args => watch world args server moment count limit

end Rollout.Cli
