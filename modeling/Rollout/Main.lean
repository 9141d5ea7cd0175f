import Rollout.Cli.Watch
import Rollout.Engine.Message
import Std.Async.DNS
import Std.Async.Signal
import Std.Async.System
import Std.Async.TCP
import Std.Time

/-!
The program on a real system: connections, files, the clock, signals and the terminal. What is
asked, shown and decided comes from the library; here it is carried out.
-/
namespace Rollout.Program

open Std.Async Std.Net

/-! ## Connections -/

def addresses (host : Url.Host) : Async (List IPAddr) := do
  match host with
  | .name text => return (← DNS.getAddrInfo (String.ofList text) "").toList
  | .ipv4 n =>
    let byte (i : Nat) : UInt8 := UInt8.ofNat (n / Nat.pow 256 i)
    return [.v4 (.ofParts (byte 3) (byte 2) (byte 1) (byte 0))]
  | .ipv6 groups => return [.v6 ⟨.ofFn fun i => UInt16.ofNat (groups.getD i 0)⟩]

def socketAddress (port : Nat) : IPAddr → SocketAddress
  | .v4 a => .v4 ⟨a, UInt16.ofNat port⟩
  | .v6 a => .v6 ⟨a, UInt16.ofNat port⟩

/-- Connects to the first address that answers. -/
def connect (port : Nat) : List IPAddr → Async (Option TCP.Socket.Client)
  | [] => return none
  | a :: rest => do
    try
      let socket ← TCP.Socket.Client.mk
      socket.connect (socketAddress port a)
      return some socket
    catch _ => connect port rest

/-- All that comes in until the connection is closed. -/
partial def receive (socket : TCP.Socket.Client) (got : ByteArray) : Async ByteArray := do
  match ← socket.recv? 65536 with
  | none => return got
  | some bytes => receive socket (got ++ bytes)

/-- Asks for a URL. Only plain connections are made. -/
def exchange (u : Url) : Async Reply := do
  if u.scheme = .https then return .refused
  let found ← try addresses u.host catch _ => pure []
  match ← connect u.portNumber found with
  | none => return .refused
  | some socket =>
    try
      socket.send (Message.request u).toUTF8
      return Message.reply (← receive socket .empty).toList
    catch _ => return .dropped

def engine : Server Async := ⟨exchange⟩

/-! ## Files, clock and terminal -/

/-- Adds what is found at a place to the files that are known. -/
def survey (fs : Files) (place : List String) : IO Files := do
  try
    let real ← IO.FS.realPath (Path.ofNames true place)
    if ← real.isDir then return fs.put place .directory
    else if ← real.pathExists then
      return fs.put place (.file (← IO.FS.readBinFile real).toList)
    else return fs
  catch _ => return fs

/-- The part of the file system that some paths lead through. -/
def surveyAll (paths : List String) : IO Files := do
  let home := Path.names (← IO.currentDir).toString
  let ways := paths.map fun p => (if Path.isAbsolute p then [] else home) ++ Path.names p
  let places := (home :: ways).flatMap fun way =>
    (List.range way.length).map fun n => way.take (n + 1)
  places.eraseDups.foldlM survey ⟨[], home⟩

/-- The home directory of the account that the program runs for. -/
def accountHome : IO (Option String) := do
  try
    return (← System.getCurrentUser).homeDir.map fun home => home.toString
  catch _ => return none

def environment : IO Environment := do
  let vars ← Environment.names.filterMapM fun name => do
    return (← IO.getEnv name).map fun value => (name, value.toUTF8.toList)
  return .ofVars vars (← accountHome)

/-- The width of the terminal behind the output. One that is not told of counts as zero. -/
def screen : IO (Option Nat) := do
  if ← (← IO.getStdout).isTty then
    return some (((← IO.getEnv "COLUMNS").bind String.toNat?).getD 0)
  else return none

def time : IO String := return (← Std.Time.DateTime.now).format "uuuu-MM-dd HH:mm:ss"

def world (args : Cli.Arguments) : IO Cli.World := do
  let env ← environment
  let paths := args.config.toList ++ (Config.standardPath? env).toList ++ [Directories.logPath env]
  return ⟨env, ← surveyAll paths, ← screen, ← time⟩

/-! ## Waiting -/

/-- How a wait ended. -/
inductive Waited (α : Type) where
  | done (a : α)
  | interrupted
  | late

/-- Waits for a task until a time, unless there is an interruption. -/
partial def waitFor (signal : AsyncTask Int) (task : AsyncTask α) (deadline : Nat) :
    IO (Waited α) := do
  if (← signal.getState) == .finished then return .interrupted
  else if (← task.getState) == .finished then return .done (← task.block)
  else if deadline ≤ (← IO.monoNanosNow) then return .late
  else
    IO.sleep 2
    waitFor signal task deadline

/-- Waits until a time. Tells whether there was no interruption. -/
partial def pause (signal : AsyncTask Int) (deadline : Nat) : IO Bool := do
  if (← signal.getState) == .finished then return false
  let now ← IO.monoNanosNow
  if deadline ≤ now then return true
  IO.sleep (UInt32.ofNat (min 20 ((deadline - now) / 1000000 + 1)))
  pause signal deadline

/-! ## The session -/

/-- What a session is carried out with. `origin` is the time at which it began, and `lost` the
refusal of the first text that could not be written. -/
structure Console (σ : Type) where
  job : Cli.Job
  output : Output σ
  text : σ → String
  clear : σ → σ
  log : Log.Line → IO Unit
  signal : AsyncTask Int
  origin : Nat
  lost : IO.Ref (Option OutputError)

namespace Console

def now (c : Console σ) : IO Nat := return (← IO.monoNanosNow) - c.origin

def write (c : Console σ) (text : String) : IO Unit := do
  if text != "" && (← c.lost.get).isNone then
    try
      let out ← IO.getStdout
      out.putStr text
      out.flush
    catch e => c.lost.set (some (.refused (toString e)))

/-- Tells of what happened and writes what was shown. Both are forgotten afterwards. -/
def tell (c : Console σ) (r : Session.Run σ) : IO (Session.Run σ) := do
  (r.journal.reverse.flatMap c.job.entryLines).forM c.log
  let output := c.output.rest r.output
  c.write (c.text output)
  return { r with journal := [], output := c.clear output }

/-- Does an action take no time of its own? -/
def isImmediate : Session.Action → Bool
  | .wait _ | .stall => false
  | _ => true

/-- Carries actions out. The waits among them are over. -/
def perform (c : Console σ) (r : Session.Run σ) (actions : List Session.Action) :
    IO (Session.Next × Session.Run σ) := do
  let (next, r) := { r with now := ← c.now }.actAll c.output none (actions.filter isImmediate)
  return (next, ← c.tell r)

/-- Sends a request. There is no reading if the session is interrupted meanwhile. -/
def ask (c : Console σ) (request : Request) (w : Wire α) :
    IO (Option (Session.Reading α)) := do
  let began ← IO.monoNanosNow
  let task ← (c.job.client.ask engine request w).toIO
  let waited ← waitFor c.signal task (began + c.job.config.timeout * Session.second)
  let delay := (← IO.monoNanosNow) - began
  let failed : Except EngineError α := .error (.http (.sending (c.job.client.base ++ request.path)))
  match waited with
  | .interrupted => return none
  | .done fetched => return some ⟨delay, some (fetched.result.getD failed)⟩
  | .late => return some ⟨delay, some failed⟩

/-- The answers of a tick with one more of them. -/
def hear (c : Console σ) (f : Session.Frame) (request : Request) :
    IO (Option Session.Frame) := do
  match Session.Query.of request with
  | .service =>
    return (← c.ask request Wire.service).map fun reading => { f with service := reading }
  | .tasks => return (← c.ask request Wire.tasks).map fun reading => { f with tasks := reading }
  | .nodes => return (← c.ask request Wire.nodes).map fun reading => { f with nodes := reading }

/-- Carries one tick out, with at most so many requests. A tick whose answers are not all there
stalls behind its next request; the answer is then fetched and the tick goes on behind the `done`
actions. An interruption meanwhile stops it. -/
def tick (c : Console σ) (w : Session.Watch) (began : Nat) : (requests done : Nat) →
    Session.Frame → Session.Run σ → IO ((Session.Next × Session.Run σ) × Session.Verdict)
  | requests, done, f, r => do
    let t := w.tick c.job.service f began
    let actions := t.actions.filter isImmediate
    let (next, r) ← c.perform r (actions.drop done)
    match t.verdict, actions.getLast?, requests with
    | .never, some (.ask request), requests + 1 =>
      match ← c.hear f request with
      | some f => tick c w began requests actions.length f r
      | none => return ((.detach, r.interrupt), .never)
    | verdict, _, _ => return ((next, r), verdict)

/-- The session on a real system. A tick makes three requests. -/
def stage (c : Console σ) : Session.Stage IO σ where
  perform _ w r := do c.tick w (← c.now) 3 0 ⟨.silent, .silent, .silent, 1⟩ r
  pause r := do
    if ← pause c.signal ((← IO.monoNanosNow) + c.job.options.interval) then return (.goOn, r)
    else return (.detach, r.interrupt)
  leave r := return Session.detach c.output none c.job.service r

/-- A whole session. Its ticks are limited only by the largest number of 64 bits. -/
def run (c : Console σ) (start : σ) : IO (Except Session.Failure Unit) := do
  let r ← c.tell ((Session.Run.begin start none).record (.noted (.watching c.job.service)))
  let (ending, r) ← c.stage.ticks UInt64.size 0 (.start c.job.options.monitor) r
  let (ending, r) := Session.finish c.output (ending, r)
  let _ ← c.tell r
  match ending, ← c.lost.get with
  | .done (.ok ()), some e => return .error (.output e)
  | .done result, _ => return result
  | .unfinished, _ => return .ok ()

end Console

/-! ## The command -/

/-- Where diagnostics go: the log file, or the error output if it is not used. -/
def openLog (opening : Cli.Opening α) (w : Cli.World) : IO IO.FS.Stream := do
  let path := Directories.logPath w.env
  if opening.logsToFile then
    try
      match Path.parent? path with
      | some parent => IO.FS.createDirAll parent
      | none => pure ()
      let file ← IO.FS.Handle.mk path .append
      file.putStr (Log.banner w.time)
      file.flush
      return .ofHandle file
    catch e =>
      IO.eprintln (Cli.unopened path (toString e))
  IO.getStderr

def logLine (stream : IO.FS.Stream) (filter : Log.Filter) (l : Log.Line) : IO Unit := do
  if Log.allows filter l then
    stream.putStr ((← time) ++ " " ++ l.show ++ "\n")
    stream.flush

def watch (args : Cli.Arguments) : IO UInt32 := do
  let w ← world args
  let opening := Cli.prepare w args
  opening.lines.forM IO.eprintln
  let stream ← openLog opening w
  match opening.result with
  | .error stop =>
    stop.lines.forM IO.eprintln
    return UInt32.ofNat stop.exitCode
  | .ok job =>
    let log := logLine stream job.filter
    job.openingLines.forM log
    let signal ← (← Signal.Waiter.mk .sigint false).wait
    let outlet := Cli.outlet job.config.output w.screen
    let console : Console outlet.State :=
      ⟨job, outlet.output, outlet.text, outlet.clear, log, signal, ← IO.monoNanosNow,
        ← IO.mkRef none⟩
    let result ← console.run outlet.start
    log (job.closingLine result)
    match result with
    | .ok () => return 0
    | .error f =>
      IO.eprintln (Cli.errorLine f.message)
      return 1

end Rollout.Program

open Rollout in
/-- Exit codes: zero for a session that ended well, one for a failure and two for a misuse. -/
def main (args : List String) : IO UInt32 := do
  match Cli.Command.ofArgs args with
  | .help page =>
    page.lines.forM IO.println
    return 0
  | .version =>
    IO.println Cli.version
    return 0
  | .misuse =>
    Cli.Page.program.lines.forM IO.eprintln
    return 2
  | .watch arguments => Program.watch arguments
