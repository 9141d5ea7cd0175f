import Rollout.Config.Load

/-!
The command line. Arguments are read from left to right, and the first one that decides the outcome
wins: a request for help or for the version, or a mistake. An option is given once, with its value
behind an equals sign or as the next argument; a value of its own does not begin with a dash, and is
looked at with the next option or at the end.
-/
namespace Rollout.Cli

/-- What the command line asks for. -/
structure Arguments where
  config : Option String
  engineUrl : Option String
  verbose : Bool
  debug : Bool
  service : String
  output : Option OutputMode
  interval : Option Nat
  deriving Repr, DecidableEq

/-- What help is asked for: that of the program, or that of its command. -/
inductive Page where
  | program
  | watch
  deriving Repr, DecidableEq

inductive Command where
  | watch (arguments : Arguments)
  | help (page : Page)
  | version
  | misuse
  deriving Repr, DecidableEq

/-- What has been read so far. -/
structure Draft where
  config : Option String
  engineUrl : Option String
  verbose : Bool
  debug : Bool
  service : Option String
  output : Option OutputMode
  interval : Option Nat
  deriving Repr, DecidableEq

def Draft.blank : Draft := ⟨none, none, false, false, none, none, none⟩

/-- What an option does with its value, or without one. -/
inductive Switch where
  | valued (set : Draft → String → Option Draft)
  | plain (set : Draft → Option Draft)
  | help (page : Page)
  | version

/-- Sets what was not set before. -/
def once (old : Option α) (value : Option α) (set : Option α → Draft) : Option Draft :=
  if old.isSome then none else value.map fun v => set (some v)

def nonEmpty (s : String) : Option String := if s = "" then none else some s

def mainSwitch? : String → Option Switch
  | "config" => some <| .valued fun d s =>
    once d.config (nonEmpty s) fun v => { d with config := v }
  | "engine-url" => some <| .valued fun d s =>
    once d.engineUrl (some s) fun v => { d with engineUrl := v }
  | "verbose" => some <| .plain fun d => if d.verbose then none else some { d with verbose := true }
  | "debug" => some <| .plain fun d => if d.debug then none else some { d with debug := true }
  | "help" => some (.help .program)
  | "version" => some .version
  | _ => none

def watchSwitch? : String → Option Switch
  | "output" => some <| .valued fun d s =>
    once d.output (OutputMode.ofText? s) fun v => { d with output := v }
  | "poll-interval-ms" => some <| .valued fun d s =>
    once d.interval (Config.number? s) fun v => { d with interval := v }
  | "help" => some (.help .watch)
  | _ => none

/-- Options of one letter. -/
def mainLetter? : Char → Option Switch
  | 'v' => mainSwitch? "verbose"
  | 'h' => some (.help .program)
  | 'V' => some .version
  | _ => none

def watchLetter? : Char → Option Switch
  | 'h' => some (.help .watch)
  | _ => none

/-- What comes of one option: reading goes on with what is left, perhaps after a value that will
turn out to be a mistake, or is over. -/
inductive Step where
  | next (d : Draft) (rest : List String)
  | mistaken (rest : List String)
  | stop (c : Command)

def Step.ofDraft? (d : Option Draft) (rest : List String) : Step :=
  match d with
  | some d => .next d rest
  | none => .stop .misuse

/-- Does an argument look like an option? A dash alone does not. -/
def isOption (s : String) : Bool := "-".isPrefixOf s && s != "-"

/-- An option with its name, and the value behind an equals sign if there is one. -/
def applySwitch (switch : Option Switch) (value : Option String) (d : Draft)
    (rest : List String) : Step :=
  match switch, value, rest with
  | some (.valued set), some value, rest => .ofDraft? (set d value) rest
  | some (.valued set), none, value :: rest =>
    if isOption value then .stop .misuse
    else
      match set d value with
      | some d => .next d rest
      | none => .mistaken rest
  | some (.plain set), none, rest => .ofDraft? (set d) rest
  | some (.help page), none, _ => .stop (.help page)
  | some .version, none, _ => .stop .version
  | _, _, _ => .stop .misuse

/-- Letters behind one dash, one option each. -/
def applyLetters (letter? : Char → Option Switch) (rest : List String) :
    Draft → List Char → Step
  | d, [] => .next d rest
  | d, c :: cs =>
    match applySwitch (letter? c) none d [] with
    | .next d _ => applyLetters letter? rest d cs
    | stop => stop

/-- The name of an option and the value behind its equals sign. -/
def splitOption (s : String) : String × Option String :=
  let cs := s.toList
  match cs.dropWhile (· != '=') with
  | [] => (s, none)
  | _ :: value => (String.ofList (cs.takeWhile (· != '=')), some (String.ofList value))

/-- One argument that looks like an option. -/
def applyOption (switch? : String → Option Switch) (letter? : Char → Option Switch) (d : Draft)
    (arg : String) (rest : List String) : Step :=
  if "--".isPrefixOf arg then
    let (name, value) := splitOption (String.ofList (arg.toList.drop 2))
    applySwitch (switch? name) value d rest
  else applyLetters letter? rest d (arg.toList.drop 1)

/-- The finished command. -/
def Draft.command (d : Draft) : Command :=
  match d.service with
  | none => .misuse
  | some service =>
    .watch ⟨d.config, d.engineUrl, d.verbose, d.debug, service, d.output, d.interval⟩

/-- A service, of which there is one. -/
def Draft.withService (d : Draft) (service : String) : Option Draft :=
  once d.service (some service) fun v => { d with service := v }

/-- Arguments behind two dashes are services whatever they look like. -/
def readServices : Draft → List String → Command
  | d, [] => d.command
  | d, arg :: rest =>
    match d.withService arg with
    | some d => readServices d rest
    | none => .misuse

/-- The arguments behind `watch`. Each step takes one at least, so their number bounds the
steps. -/
def readWatch : (steps : Nat) → Draft → List String → Command
  | 0, d, _ => d.command
  | _ + 1, d, [] => d.command
  | steps + 1, d, arg :: rest =>
    if arg = "--" then readServices d rest
    else if isOption arg then
      match applyOption watchSwitch? watchLetter? d arg rest with
      | .next d rest => readWatch steps d rest
      | .mistaken _ => .misuse
      | .stop c => c
    else
      match d.withService arg with
      | some d => readWatch steps d rest
      | none => .misuse

/-- Help about a command. -/
def readHelp : List String → Command
  | [] | ["help"] => .help .program
  | ["watch"] => .help .watch
  | _ => .misuse

/-- The arguments behind a mistaken value. Only a command in which help is asked for comes first. -/
def readMistaken : List String → Command
  | "help" :: rest => readHelp rest
  | "watch" :: rest =>
    match readWatch (rest.length + 1) .blank rest with
    | .help page => .help page
    | _ => .misuse
  | _ => .misuse

/-- The arguments in front of the command. -/
def readMain : (steps : Nat) → Draft → List String → Command
  | 0, _, _ => .misuse
  | _ + 1, _, [] => .misuse
  | steps + 1, d, arg :: rest =>
    if isOption arg && arg != "--" then
      match applyOption mainSwitch? mainLetter? d arg rest with
      | .next d rest => readMain steps d rest
      | .mistaken rest => readMistaken rest
      | .stop c => c
    else if arg = "watch" then readWatch (rest.length + 1) d rest
    else if arg = "help" then readHelp rest
    else .misuse

/-- Reads a command line. -/
def Command.ofArgs (args : List String) : Command := readMain (args.length + 1) .blank args

/-- The name of the program with its version. -/
def version : String := "converge 0.1.0"

def Page.lines : Page → List String
  | .program =>
    ["Live rollout progress for orchestrated services",
     "",
     "Usage: converge [OPTIONS] <COMMAND>",
     "",
     "Commands:",
     "  watch  Follow a service rollout until it converges",
     "  help   Print this message or the help of the given subcommand(s)",
     "",
     "Options:",
     "      --config <CONFIG>          Configuration file path (overrides defaults)",
     "      --engine-url <ENGINE_URL>  Engine API URL, e.g. tcp://127.0.0.1:2375",
     "  -v, --verbose                  Enable debug logging",
     "      --debug                    Write debug entries to the log file",
     "  -h, --help                     Print help",
     "  -V, --version                  Print version"]
  | .watch =>
    ["Follow a service rollout until it converges",
     "",
     "Usage: converge watch [OPTIONS] <SERVICE>",
     "",
     "Arguments:",
     "  <SERVICE>  Service ID or name",
     "",
     "Options:",
     "      --output <OUTPUT>                      Progress output: terminal, json or quiet",
     "      --poll-interval-ms <POLL_INTERVAL_MS>  Pause between polls in milliseconds",
     "  -h, --help                                 Print help"]

end Rollout.Cli
