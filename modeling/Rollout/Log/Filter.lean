import Rollout.Log.Line

/-!
Which diagnostics are shown. A filter is a list of rules; a rule sets a level for the lines whose
topics begin with a word and that name a value, or for all of them. Of the rules that match a line
the most specific one decides, and where none matches nothing is shown.
-/
namespace Rollout.Log

/-- A rule without a topic matches every topic, and one without a field lines with any. One
without a level shows nothing. -/
structure Rule where
  topic : Option String
  field : Option String
  level : Option Level
  deriving Repr, DecidableEq

abbrev Filter := List Rule

def Level.rank : Level → Nat
  | .error => 1
  | .warn => 2
  | .info => 3
  | .debug => 4
  | .trace => 5

/-- What a line has, its message among it. -/
def Line.names (l : Line) : List String := "message" :: l.fields.map Field.name

def Rule.matches (r : Rule) (l : Line) : Bool :=
  r.topic.all (fun name => name.isPrefixOf l.topic.name)
    && r.field.all (fun name => l.names.contains name)

/-- How much of a topic a rule names. -/
def Rule.reach (r : Rule) : Nat := (r.topic.map fun name => name.utf8ByteSize + 1).getD 0

/-- Is a rule no more specific than another? A longer topic goes first, and then a field; of two
fields the later name does. -/
def Rule.isBelow (r s : Rule) : Bool :=
  r.reach < s.reach || r.reach == s.reach &&
    match r.field, s.field with
    | none, _ => true
    | some _, none => false
    | some f, some g => f < g || f == g

/-- The rule that decides. Of two that say the same the later one counts. -/
def decisive? (f : Filter) (l : Line) : Option Rule :=
  (f.filter fun r => r.matches l).foldl (fun best r =>
    match best with
    | none => some r
    | some b => if b.isBelow r then some r else some b) none

def allows (f : Filter) (l : Line) : Bool :=
  match (decisive? f l).bind Rule.level with
  | some most => l.level.rank ≤ most.rank
  | none => false

/-- What is shown unless the environment says otherwise. -/
def standardFilter (verbose : Bool) : Filter :=
  let own := some Topic.command.name
  if verbose then [⟨own, none, some .debug⟩, ⟨none, none, some .info⟩]
  else [⟨own, none, some .info⟩, ⟨none, none, some .warn⟩]

end Rollout.Log
