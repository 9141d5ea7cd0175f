import Rollout.Config
import Rollout.Directories
import Rollout.Log.Line

/-!
Layers of settings. What a file does not set keeps its default; the environment goes before the
file, and the flags of the command line go before the environment.
-/
namespace Rollout

/-- Settings that go before others. -/
structure Overrides where
  engineUrl : Option String
  interval : Option Nat
  output : Option OutputMode
  deriving Repr, DecidableEq

namespace Config

def override (c : Config) (o : Overrides) : Config :=
  { c with
    engineUrl := o.engineUrl.getD c.engineUrl
    interval := o.interval.getD c.interval
    output := o.output.getD c.output }

/-- The characters without the plus sign that may stand in front of them. -/
def unsigned : List Char → List Char
  | '+' :: cs => cs
  | cs => cs

/-- A decimal number that fits 64 bits. A plus sign may stand in front of it. -/
def number? (s : String) : Option Nat :=
  let digits := unsigned s.toList
  if digits.isEmpty || !digits.all Json.isDigit then none
  else
    let n := digits.foldl (fun n d => n * 10 + Json.digitValue d) 0
    if n ≤ Json.maxWord then some n else none

/-- Hosts that are local sockets cannot be reached and are passed over. -/
def isLocalSocket (host : String) : Bool :=
  "unix://".isPrefixOf host || "npipe://".isPrefixOf host

/-- The engine that the environment names. -/
def engineFrom (env : Environment) : Option String :=
  (env.text? "CONVERGE_ENGINE_URL")
    <|> ((env.text? "DOCKER_HOST").filter fun host => !isLocalSocket host)

/-- The setting in a text that need not be there. -/
def readSetting {α : Type} (read : String → Option α) (flaw : String → ConfigFlaw) :
    Option String → Except ConfigError (Option α)
  | none => .ok none
  | some s =>
    match read s with
    | some x => .ok (some x)
    | none => .error (.invalid (flaw s))

/-- The settings that the environment gives. -/
def overridesFrom (env : Environment) : Except ConfigError Overrides := do
  let interval ← readSetting number? .badInterval (env.text? "CONVERGE_POLL_INTERVAL_MS")
  let output ← readSetting OutputMode.ofText? .unknownOutput (env.text? "CONVERGE_OUTPUT")
  return ⟨engineFrom env, interval, output⟩

/-- Settings with those of the environment before them. They have to be valid. -/
def withEnvironment (c : Config) (env : Environment) : Except ConfigError Config := do
  (c.override (← overridesFrom env)).validate

/-- The settings of a file. -/
def ofFile (fs : Files) (env : Environment) (path : String) : Except ConfigError Config := do
  let text ← (fs.readText path).mapError .unreadable
  (← ofText text).withEnvironment env

/-- Where settings come from. -/
inductive Source where
  | file (path : String)
  | standard
  deriving Repr, DecidableEq

/-- The file for the environment at hand, if there is one. -/
def standardPath? (env : Environment) : Option String :=
  (Directories.configDir? env).map fun d =>
    Path.join d ("config." ++ (env.text? "CONVERGE_ENV").getD "production" ++ ".json")

/-- A file that is named has to exist. Otherwise the file for the environment is taken if it
exists, and else there is none. -/
def source (fs : Files) (env : Environment) (named : Option String) :
    Except ConfigError Source :=
  match named with
  | some path => if fs.exists? path then .ok (.file path) else .error (.invalid (.missingFile path))
  | none =>
    match (standardPath? env).filter fs.exists? with
    | some path => .ok (.file path)
    | none => .ok .standard

def Source.load (fs : Files) (env : Environment) : Source → Except ConfigError Config
  | .file path => ofFile fs env path
  | .standard => Config.standard.withEnvironment env

def Source.line : Source → Log.Line
  | .file path => ⟨.settings, .info, "Loading config from: " ++ Unicode.quoted path, []⟩
  | .standard => ⟨.settings, .debug, "Using default configuration with environment overrides", []⟩

/-- The settings below the flags. -/
def load (fs : Files) (env : Environment) (named : Option String) : Except ConfigError Config := do
  (← source fs env named).load fs env

end Config
end Rollout
