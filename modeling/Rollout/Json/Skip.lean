import Rollout.Json.Scan

/-!
Passing over a value that is not wanted. It has to be well formed, may be nested to any depth, and
its strings may hold any bytes and its numbers any size.
-/
namespace Rollout.Json

/-- The rest behind the closing quote of a string whose content does not matter. -/
def skipString : Text → Except Fault Text
  | [] => .error .endOfString
  | some '"' :: s => .ok s
  | some '\\' :: some 'u' :: a :: b :: c :: d :: s =>
    if (hexCode a b c d).isSome then skipString s else .error .badEscape
  | some '\\' :: some 'u' :: s => .error (shortHex s)
  | [some '\\'] => .error .endOfString
  | some '\\' :: x :: s => if (x.bind unescape).isSome then skipString s else .error .badEscape
  | x :: s => if isControl x then .error .controlCharacter else skipString s

def skipDigits : Text → Text
  | some c :: s => if isDigit c then skipDigits s else some c :: s
  | s => s

/-- At least one digit, and the rest behind the last. -/
def skipSomeDigits : Text → Except Fault Text
  | some c :: s => if isDigit c then .ok (skipDigits s) else .error .badNumber
  | _ => .error .badNumber

def skipExponent : Text → Except Fault Text
  | some 'e' :: some '+' :: s | some 'e' :: some '-' :: s
  | some 'E' :: some '+' :: s | some 'E' :: some '-' :: s
  | some 'e' :: s | some 'E' :: s => skipSomeDigits s
  | s => .ok s

def skipFraction : Text → Except Fault Text
  | some '.' :: s => (skipSomeDigits s).bind skipExponent
  | s => skipExponent s

/-- A number behind its sign. -/
def skipUnsigned : Text → Except Fault Text
  | some '0' :: some c :: s =>
    if isDigit c then .error .badNumber else skipFraction (some c :: s)
  | some '0' :: s => skipFraction s
  | s => (skipSomeDigits s).bind skipFraction

/-- An open list or an open object. -/
inductive Bracket where
  | list
  | object
  deriving Repr, DecidableEq

def Bracket.truncated : Bracket → Fault
  | .list => .endOfList
  | .object => .endOfObject

def Bracket.unclosed : Bracket → Fault
  | .list => .expectedListEnd
  | .object => .expectedObjectEnd

def Bracket.closer : Bracket → Char
  | .list => ']'
  | .object => '}'

/-- The key of a member whose value does not matter, with its colon. -/
def skipKey (s : Text) : Except Fault Text :=
  match skipBlank s with
  | [] => .error .endOfObject
  | some '"' :: s =>
    match skipString s with
    | .error e => .error e
    | .ok s =>
      match skipBlank s with
      | [] => .error .endOfObject
      | some ':' :: s => .ok s
      | _ => .error .expectedColon
  | _ => .error .keyNotString

/-- One scalar value, or the bracket that opens a compound one. -/
def skipOpening (s : Text) : Except Fault (Option Bracket × Text) :=
  match skipBlank s with
  | [] => .error .endOfValue
  | some 'n' :: s => (literal ['u', 'l', 'l'] s).map (none, ·)
  | some 't' :: s => (literal ['r', 'u', 'e'] s).map (none, ·)
  | some 'f' :: s => (literal ['a', 'l', 's', 'e'] s).map (none, ·)
  | some '-' :: s => (skipUnsigned s).map (none, ·)
  | some '"' :: s => (skipString s).map (none, ·)
  | some '[' :: s => .ok (some .list, s)
  | some '{' :: s => .ok (some .object, s)
  | some c :: s =>
    if isDigit c then (skipUnsigned (some c :: s)).map (none, ·) else .error .expectedValue
  | none :: _ => .error .expectedValue

/-- What a position behind a value or behind an opening bracket leads to. -/
inductive Turn where
  | next (s : Text)
  | close (s : Text)

/-- A comma leads to the next item, the closing bracket out of the compound; straight behind the
opening bracket the first item needs no comma. -/
def turn (b : Bracket) (afterItem : Bool) (s : Text) : Except Fault Turn :=
  match skipBlank s with
  | [] => .error b.truncated
  | x :: r =>
    if afterItem && x == some ',' then .ok (.next r)
    else if x == some b.closer then .ok (.close r)
    else if afterItem then .error b.unclosed
    else .ok (.next (x :: r))

/-- Where the next thing to pass over stands. -/
inductive Place where
  | item
  | behind (afterItem : Bool)

/-- Passes over a value and then over all that is left of the open brackets. Every opening bracket
costs a character and every other step either reads one or leads from behind an item to the next,
so the pass ends; `steps` bounds it. -/
def skipFrom : (steps : Nat) → List Bracket → Place → Text → Except Fault Text
  | 0, _, _, _ => .error .endOfValue
  | steps + 1, open', .item, s =>
    match skipOpening s with
    | .error e => .error e
    | .ok (some b, s) => skipFrom steps (b :: open') (.behind false) s
    | .ok (none, s) => skipFrom steps open' (.behind true) s
  | _ + 1, [], .behind _, s => .ok s
  | steps + 1, b :: open', .behind afterItem, s =>
    match turn b afterItem s with
    | .error e => .error e
    | .ok (.close s) => skipFrom steps open' (.behind true) s
    | .ok (.next s) =>
      match b with
      | .list => skipFrom steps (b :: open') .item s
      | .object =>
        match skipKey s with
        | .error e => .error e
        | .ok s => skipFrom steps (b :: open') .item s

/-- Passes over one value. -/
def skipValue (s : Text) : Except Fault Text := skipFrom (2 * s.length + 2) [] .item s

end Rollout.Json
