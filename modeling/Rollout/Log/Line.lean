import Rollout.Unicode.Quoted

/-!
Diagnostics: what a program tells about its work, each line with a level and a topic.
-/
namespace Rollout.Log

/-- Levels from the gravest to the least. -/
inductive Level where
  | error
  | warn
  | info
  | debug
  | trace
  deriving Repr, DecidableEq

def Level.label : Level → String
  | .error => "ERROR"
  | .warn => "WARN"
  | .info => "INFO"
  | .debug => "DEBUG"
  | .trace => "TRACE"

/-- What a line is about. Topics have paths as names, so that a filter can tell them apart. -/
inductive Topic where
  | command
  | settings
  | engine
  | session
  | update
  deriving Repr, DecidableEq

def Topic.name : Topic → String
  | .command => "converge"
  | .settings => "converge::config"
  | .engine => "converge::client::engine"
  | .session => "converge::progress::poller"
  | .update => "converge::progress::updater"

/-- A value that a line names. -/
structure Field where
  name : String
  value : String
  deriving Repr, DecidableEq

/-- A line says something, and may have values behind it. -/
structure Line where
  topic : Topic
  level : Level
  message : String
  fields : List Field
  deriving Repr, DecidableEq

/-- Characters that could steer a terminal are spelled out. -/
def spelled (c : Char) : List Char :=
  match c with
  | '\x1b' => ['\\', 'x', '1', 'b']
  | '\x07' => ['\\', 'x', '0', '7']
  | '\x08' => ['\\', 'x', '0', '8']
  | '\x0c' => ['\\', 'x', '0', 'c']
  | '\x7f' => ['\\', 'x', '7', 'f']
  | c => if 0x80 ≤ c.toNat ∧ c.toNat ≤ 0x9F then Unicode.codeEscape c else [c]

def Field.show (f : Field) : String := " " ++ f.name ++ "=" ++ f.value

/-- A line as it is written. Values are written as they are. -/
def Line.show (l : Line) : String :=
  l.level.label ++ " " ++ String.ofList (l.message.toList.flatMap spelled)
    ++ String.join (l.fields.map Field.show)

end Rollout.Log
