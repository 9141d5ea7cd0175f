import Rollout.Files
import Rollout.Json.Printer
import Rollout.Json.Record
import Rollout.Unicode.Quoted
import Rollout.Unicode.Space

/-!
Settings of the program, their JSON form, and what makes them valid.
-/
namespace Rollout

/-- How progress is shown: live bars, one JSON object a line, or not at all. -/
inductive OutputMode where
  | terminal
  | json
  | quiet
  deriving Repr, DecidableEq

namespace OutputMode

def all : List OutputMode := [.terminal, .json, .quiet]

def name : OutputMode → String
  | .terminal => "terminal"
  | .json => "json"
  | .quiet => "quiet"

/-- The mode with a name in any case. No letter outside ASCII is a capital of one in the names. -/
def ofText? (s : String) : Option OutputMode := all.find? fun m => m.name == s.toLower

open Json in
/-- The mode with exactly this name. -/
def reader : Reader OutputMode := Reader.name fun s =>
  match all.find? fun m => m.name == s with
  | some m => .ok m
  | none => .error (.unknownVariant s (all.map name))

end OutputMode

/-- Times in the units in which they are given: milliseconds between polls, seconds otherwise. -/
structure Config where
  engineUrl : String
  interval : Nat
  monitor : Nat
  timeout : Nat
  output : OutputMode
  debug : Bool
  deriving Repr, DecidableEq

/-- What makes settings invalid. -/
inductive ConfigFlaw where
  | unknownOutput (text : String)
  | badInterval (text : String)
  | noUrl
  | noInterval
  | noTimeout
  | missingFile (path : String)
  deriving Repr, DecidableEq

inductive ConfigError where
  | unreadable (e : FileError)
  | malformed (fault : Json.Fault)
  | invalid (flaw : ConfigFlaw)
  deriving Repr, DecidableEq

def ConfigFlaw.message : ConfigFlaw → String
  | .unknownOutput text => "Unknown output mode: " ++ text
  | .badInterval text => "CONVERGE_POLL_INTERVAL_MS must be a number, got " ++ text
  | .noUrl => "engine_url cannot be empty"
  | .noInterval => "poll_interval_ms must be greater than 0"
  | .noTimeout => "request_timeout_secs must be greater than 0"
  | .missingFile path => "Config file not found: " ++ Unicode.quoted path

def ConfigError.message : ConfigError → String
  | .unreadable e => "Failed to read config file: " ++ e.message
  | .malformed fault => "Failed to parse config JSON: " ++ fault.message
  | .invalid flaw => "Invalid configuration: " ++ flaw.message

namespace Config

def standard : Config := ⟨"http://127.0.0.1:2375", 200, 5, 30, .terminal, false⟩

open Json

def form : Record Config where
  name := "AppConfig"
  fields :=
    [.optional "engine_url" Reader.text fun x c => { c with engineUrl := x },
     .optional "poll_interval_ms" Reader.natural fun x c => { c with interval := x },
     .optional "default_monitor_secs" Reader.natural fun x c => { c with monitor := x },
     .optional "request_timeout_secs" Reader.natural fun x c => { c with timeout := x },
     .optional "output" OutputMode.reader fun x c => { c with output := x },
     .optional "debug" Reader.flag fun x c => { c with debug := x }]
  blank := standard

def print (c : Config) : List Char :=
  Print.object
    [Print.member "engine_url" (Print.text c.engineUrl),
     Print.member "poll_interval_ms" (Print.natural c.interval),
     Print.member "default_monitor_secs" (Print.natural c.monitor),
     Print.member "request_timeout_secs" (Print.natural c.timeout),
     Print.member "output" (Print.text c.output.name),
     Print.member "debug" (Print.flag c.debug)]

def json (c : Config) : String := String.ofList c.print

/-- Settings out of a JSON text. -/
def ofText (s : String) : Except ConfigError Config :=
  (form.reader.run (Text.ofString s)).mapError .malformed

/-- The first flaw of the settings. -/
def flaw? (c : Config) : Option ConfigFlaw :=
  if Unicode.isBlank c.engineUrl then some .noUrl
  else if c.interval = 0 then some .noInterval
  else if c.timeout = 0 then some .noTimeout
  else none

def validate (c : Config) : Except ConfigError Config :=
  match c.flaw? with
  | some flaw => .error (.invalid flaw)
  | none => .ok c

end Config
end Rollout
