import Rollout.Json.Skip

/-!
Readers of typed values. A reader takes the depth that is still allowed and a text, and gives a
value and the rest of the text. It reads in one pass, so of several problems the first in text
order is the one reported.
-/
namespace Rollout.Json

abbrev Reader (α : Type) := (depth : Nat) → Text → Except Fault (α × Text)

namespace Reader

def map (f : α → β) (read : Reader α) : Reader β := fun depth s =>
  match read depth s with
  | .ok (a, r) => .ok (f a, r)
  | .error e => .error e

/-- Where a value starts. The text must not end before it. -/
def atValue (read : Char → Text → Text → Except Fault (α × Text)) : Reader α := fun _ s =>
  match skipBlank s with
  | [] => .error .endOfValue
  | none :: _ => .error .expectedValue
  | some c :: r => read c r (some c :: r)

/-- The fault of a value of the wrong kind: scalars are read to their end first. `c` is its first
character, `r` the text behind it. -/
def mismatch (expected : String) (c : Char) (r : Text) : Fault :=
  let fault {α : Type} (found : α → Found) : Except Fault α → Fault
    | .ok a => .wrongType (found a) expected
    | .error e => e
  match c with
  | 'n' => fault (fun _ => .null) (literal ['u', 'l', 'l'] r)
  | 't' => fault (fun _ => .boolean true) (literal ['r', 'u', 'e'] r)
  | 'f' => fault (fun _ => .boolean false) (literal ['a', 'l', 's', 'e'] r)
  | '"' => fault (fun p => .text p.1) (readString r)
  | '[' => .wrongType .sequence expected
  | '{' => .wrongType .map expected
  | c =>
    if startsNumber (some c) then
      fault (fun p : Number × Text => Number.found p.1) (scanNumber (some c :: r))
    else .expectedValue

def text : Reader String := atValue fun c r _ =>
  if c = '"' then readString r else .error (mismatch "a string" c r)

def flag : Reader Bool := atValue fun c r _ =>
  match c with
  | 't' => (literal ['r', 'u', 'e'] r).map (true, ·)
  | 'f' => (literal ['a', 'l', 's', 'e'] r).map (false, ·)
  | c => .error (mismatch "a boolean" c r)

/-- An integer without a sign, at most `2 ^ 64 - 1`. -/
def natural : Reader Nat := atValue fun c r s =>
  if startsNumber (some c) then
    match scanNumber s with
    | .ok (.natural n, r) => .ok (n, r)
    | .ok (.negative n, _) => .error (.wrongValue n "u64")
    | .ok (.float bits, _) => .error (.wrongType (.float bits) "u64")
    | .error e => .error e
  else .error (mismatch "u64" c r)

/-- An integer from `-2 ^ 63` to `2 ^ 63 - 1`. -/
def integer : Reader Int := atValue fun c r s =>
  if startsNumber (some c) then
    match scanNumber s with
    | .ok (.natural n, r) =>
      if n < Nat.pow 2 63 then .ok ((n : Int), r) else .error (.wrongValue n "i64")
    | .ok (.negative n, r) => .ok (n, r)
    | .ok (.float bits, _) => .error (.wrongType (.float bits) "i64")
    | .error e => .error e
  else .error (mismatch "i64" c r)

/-- The null value and nothing else. -/
def null : Reader Unit := atValue fun c r _ =>
  if c = 'n' then (literal ['u', 'l', 'l'] r).map ((), ·) else .error (mismatch "unit" c r)

/-- Null stands for the absence of a value. -/
def option (read : Reader α) : Reader (Option α) := fun depth s =>
  match skipBlank s with
  | some 'n' :: r => (literal ['u', 'l', 'l'] r).map (none, ·)
  | _ => read.map some depth s

/-- Opens a bracket. The last level that is allowed stays unused. -/
def enter (depth : Nat) (body : Nat → Except Fault α) : Except Fault α :=
  match depth with
  | d + 2 => body (d + 1)
  | _ => .error .tooDeep

/-- What stands next between brackets. -/
inductive Next where
  | close (s : Text)
  | item (s : Text)

/-- The closing bracket, or the start of an item. Behind an item a comma leads to the next. -/
def next (b : Bracket) (afterItem : Bool) (s : Text) : Except Fault Next :=
  match skipBlank s with
  | [] => .error b.truncated
  | x :: r =>
    if x = some b.closer then .ok (.close r)
    else if !afterItem then .ok (.item (x :: r))
    else if x = some ',' then
      match skipBlank r with
      | [] => .error .endOfValue
      | y :: t => if y = some b.closer then .error .trailingComma else .ok (.item (y :: t))
    else .error b.unclosed

/-- Items up to the closing bracket. Each takes a character at least, so the length of the text
is enough `steps`. -/
def items (read : Reader α) (depth : Nat) :
    (steps : Nat) → (afterItem : Bool) → Text → Except Fault (List α × Text)
  | 0, _, _ => .error .endOfList
  | steps + 1, afterItem, s =>
    match next .list afterItem s with
    | .error e => .error e
    | .ok (.close r) => .ok ([], r)
    | .ok (.item r) =>
      match read depth r with
      | .error e => .error e
      | .ok (a, r) =>
        match items read depth steps true r with
        | .error e => .error e
        | .ok (as, r) => .ok (a :: as, r)

def list (read : Reader α) : Reader (List α) := fun depth => atValue (fun c r _ =>
  if c = '[' then enter depth fun depth => items read depth (r.length + 1) false r
  else .error (mismatch "a sequence" c r)) depth

/-- The colon behind a key. -/
def colon (s : Text) : Except Fault Text :=
  match skipBlank s with
  | [] => .error .endOfObject
  | x :: r => if x = some ':' then .ok r else .error .expectedColon

/-- A name out of a set: the name as a string, or an object with the name as its only key and
null as the value. `known` gives the value of a name. -/
def name (known : String → Except Fault α) : Reader α := fun depth => atValue (fun c r _ =>
  if c = '"' then
    match readString r with
    | .error e => .error e
    | .ok (t, r) => (known t).map (·, r)
  else if c = '{' then
    enter depth fun depth =>
      let key := atValue (fun c r _ =>
        if c = '"' then readString r else .error .keyNotString) depth r
      match key with
      | .error e => .error e
      | .ok (t, r) =>
        match known t with
        | .error e => .error e
        | .ok a =>
          match colon r with
          | .error e => .error e
          | .ok r =>
            match null depth r with
            | .error e => .error e
            | .ok (_, r) =>
              match skipBlank r with
              | [] => .error .endOfObject
              | x :: r => if x = some '}' then .ok (a, r) else .error .expectedValue
  else .error .expectedValue) depth

end Reader

/-- A whole text: one value with nothing but blanks behind it. -/
def Reader.run (read : Reader α) (s : Text) : Except Fault α :=
  match read 128 s with
  | .error e => .error e
  | .ok (a, r) =>
    match skipBlank r with
    | [] => .ok a
    | _ => .error .trailingText

end Rollout.Json
