import Rollout.Log.Filter
import Rollout.Log.Pattern
import Rollout.Unicode.Space
import Rollout.Unicode.Utf8

/-!
Filters as text. Rules stand with commas between them: a level, a topic, a topic with its level
behind an equals sign, and between them perhaps brackets with a span and, in braces, a value.

Places in a rule are found with the blanks around it left out, but the parts are then cut out of the
text with its blanks. So blanks behind a rule belong to it, and blanks in front of it shift its
parts.
-/
namespace Rollout.Log

/-- Why a text is no filter: one of its rules is a bad one, or a part would begin or end inside a
character. -/
inductive SettingFault where
  | malformed
  | split
  deriving Repr, DecidableEq

def Level.all : List Level := [.error, .warn, .info, .debug, .trace]

/-- A level by its rank, or by its name in any case. Off, or zero, is none at all. -/
def levelOf? (s : String) : Option (Option Level) :=
  let digits := match s.toList with
    | '+' :: ds => ds
    | ds => ds
  if digits ≠ [] ∧ digits.all Char.isDigit then
    let rank := digits.foldl (fun n d => n * 10 + (d.toNat - '0'.toNat)) 0
    if rank = 0 then some none else (Level.all.find? fun l => l.rank == rank).map some
  else if s.toLower = "off" then some none
  else (Level.all.find? fun l => l.label.toLower == s.toLower).map some

/-- The level of a rule, of which none is written where everything is to be shown. -/
def ruleLevel (s : String) : Except SettingFault (Option Level) :=
  if s = "" then .ok (some .trace)
  else
    match levelOf? s with
    | some level => .ok level
    | none => .error .malformed

/-- The number of bytes of some characters. -/
def byteSize (cs : List Char) : Nat := cs.foldl (fun n c => n + c.utf8Size) 0

/-- Does a character begin at a byte, or the text end there? -/
def isEdge (bs : List UInt8) (n : Nat) : Bool :=
  match bs[n]? with
  | some b => b < 0x80 || 0xC0 ≤ b
  | none => true

/-- The part of a text between two bytes. -/
def cut (text : String) (first last : Nat) : Except SettingFault String :=
  let bs := text.toUTF8.toList
  if isEdge bs first && isEdge bs last then
    match Utf8.text? ((bs.take last).drop first) with
    | some part => .ok part
    | none => .error .split
  else .error .split

/-- A decimal number with a sign in front of it, perhaps with a fraction or an exponent. -/
def isSigned (s : String) : Bool :=
  match s.toLower.toList with
  | '+' :: cs =>
    let whole := cs.takeWhile Char.isDigit
    let rest := cs.drop whole.length
    let fraction := if rest.head? = some '.' then (rest.drop 1).takeWhile Char.isDigit else []
    let rest := if rest.head? = some '.' then rest.drop (fraction.length + 1) else rest
    let exponent := match rest with
      | 'e' :: '+' :: ds | 'e' :: '-' :: ds | 'e' :: ds => ds ≠ [] ∧ ds.all Char.isDigit
      | rest => rest = []
    cs ∈ ["inf".toList, "infinity".toList, "nan".toList]
      || (whole ++ fraction != [] && exponent)
  | _ => false

/-- The name of a value. One that is to have some value itself is asked for by a number or by a
pattern; as no line is asked for its values, there is no name then. -/
def fieldOf (s : String) : Except SettingFault (Option String) :=
  match s.splitOn "=" with
  | [] | [""] => .error .malformed
  | [name] => .ok (some name)
  | _ :: value :: _ => if isSigned value || isPattern value then .ok none else .error .malformed

/-- The level of a rule behind its brackets. -/
def levelBehind (text : String) (place : Nat) (cs : List Char) :
    Except SettingFault (Option Level) :=
  match cs with
  | [] => .ok (some .trace)
  | '=' :: _ => do ruleLevel (← cut text (place + 1) text.utf8ByteSize)
  | _ => .error .malformed

/-- A rule from its opening bracket on. Rules that name a span match no line, since there are no
spans. -/
def bracketRule (text : String) (topic : Option String) (place : Nat) (cs : List Char) :
    Except SettingFault (Option Rule) := do
  let span := cs.takeWhile fun c => c != ']' && c != '\x7b'
  let behind := place + byteSize span
  match cs.drop span.length with
  | ']' :: rest =>
    let _ ← cut text place behind
    let _ ← levelBehind text (behind + 1) rest
    return none
  | '\x7b' :: rest =>
    let name ← cut text place behind
    let inner := rest.takeWhile (· != '\x7d')
    let closing := behind + 1 + byteSize inner
    match rest.drop inner.length with
    | '\x7d' :: rest =>
      let field ← fieldOf (← cut text (behind + 1) closing)
      match rest with
      | ']' :: rest =>
        let level ← levelBehind text (closing + 2) rest
        return if name = "" then field.map fun f => ⟨topic, some f, level⟩ else none
      | _ => throw .malformed
    | _ => throw .malformed
  | _ => throw .malformed

/-- A rule, or none if it is a good one that matches no line. -/
def ruleOf (text : String) : Except SettingFault (Option Rule) := do
  let cs := Unicode.trim text.toList
  let word := cs.takeWhile fun c => c != '=' && c != '['
  let place := byteSize word
  match word, cs.drop word.length with
  | [], '[' :: rest => bracketRule text none 1 rest
  | [], _ => throw .malformed
  | first :: _, rest =>
    if !(Unicode.isAlphanumeric first || ['-', ':', '_'].contains first) then throw .malformed
    match rest with
    | '[' :: rest => bracketRule text (some (← cut text 0 place)) (place + 1) rest
    | '=' :: _ =>
      let topic ← cut text 0 place
      let level ← ruleLevel (← cut text (place + 1) text.utf8ByteSize)
      return some ⟨some topic, none, level⟩
    | _ =>
      return some (match levelOf? text with
        | some level => ⟨none, none, level⟩
        | none => ⟨some text, none, some .trace⟩)

/-- Rules with commas between them. Without any rule nothing is shown. -/
def filterOf (s : String) : Except SettingFault Filter := do
  let rules ← ((s.splitOn ",").filter (· != "")).mapM ruleOf
  return rules.filterMap id

/-- The filter of the environment, if there is a good one. -/
def filterFrom (setting : Option String) (verbose : Bool) : Except SettingFault Filter :=
  match setting.map filterOf with
  | none | some (.error .malformed) => .ok (standardFilter verbose)
  | some found => found

end Rollout.Log
