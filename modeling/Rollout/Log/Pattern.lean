import Rollout.Unicode.Alphanumeric

/-!
Patterns: which texts are well-formed ones. A rule for diagnostics may hold a pattern for a value.
None is ever matched here, but a text that is none makes the rule a bad one. Patterns stand between
braces, so that no brace that is closed again can stand in them.
-/
namespace Rollout.Log.Pattern

/-! ## Escapes -/

/-- What an escape stands for: one character, a class of them, or a place between two. -/
inductive Escape where
  | char (code : Nat)
  | several
  | place
  deriving Repr, DecidableEq

def hexValue (c : Char) : Nat :=
  if c.isDigit then c.toNat - '0'.toNat else c.toLower.toNat - 'a'.toNat + 10

/-- The character that the first `count` signs spell in hexadecimal, and the rest. -/
def spelledChar? (count : Nat) (cs : List Char) : Option (Escape × List Char) :=
  let digits := cs.take count
  let code := digits.foldl (fun n c => n * 16 + hexValue c) 0
  let isHex := fun c : Char => c.isDigit || 'a' ≤ c.toLower && c.toLower ≤ 'f'
  if digits.length = count ∧ digits.all isHex ∧ code.isValidChar then
    some (.char code, cs.drop count)
  else none

/-- Signs that stand for themselves behind a backslash. -/
def isMark (c : Char) : Bool := c.toNat < 0x80 && !c.isAlphanum && c != '<' && c != '>'

/-- The escape behind a backslash, and the rest. Edges of words are not known. -/
def escape? : List Char → Option (Escape × List Char)
  | [] => none
  | 'x' :: cs => spelledChar? 2 cs
  | 'u' :: cs => spelledChar? 4 cs
  | 'U' :: cs => spelledChar? 8 cs
  | 'p' :: c :: cs | 'P' :: c :: cs =>
    if c.toLower ∈ ['c', 'l', 'm', 'n', 'p', 's', 'z'] then some (.several, cs) else none
  | c :: cs =>
    if c.toLower ∈ ['d', 's', 'w'] then some (.several, cs)
    else if c = 'A' ∨ c = 'z' then some (.place, cs)
    else if isMark c then some (.char c.toNat, cs)
    else (['a', 'b', 't', 'n', 'v', 'f', 'r'].idxOf? c).bind fun i =>
      if c = 'b' then none else some (.char (i + 7), cs)

/-! ## Classes -/

/-- A character of a class as it is written, and the rest. -/
def member? : List Char → Option (Escape × List Char)
  | [] => none
  | '\\' :: cs => escape? cs
  | c :: cs => some (.char c.toNat, cs)

/-- The first signs of a class, which may stand for themselves there. -/
def openClass (cs : List Char) : List Char :=
  let cs := if cs.head? = some '^' then cs.drop 1 else cs
  if cs.head? = some '-' then cs.dropWhile (· == '-')
  else if cs.head? = some ']' then cs.drop 1
  else cs

/-- What is behind a class in which `depth` brackets are open. Ranges go upwards. -/
def closeClass? : (steps depth : Nat) → List Char → Option (List Char)
  | 0, _, _ => none
  | steps + 1, depth, cs =>
    match cs with
    | '[' :: cs => closeClass? steps (depth + 1) (openClass cs)
    | ']' :: cs => if depth ≤ 1 then some cs else closeClass? steps (depth - 1) cs
    | '&' :: '&' :: cs | '-' :: '-' :: cs | '~' :: '~' :: cs => closeClass? steps depth cs
    | cs => do
      let (first, rest) ← member? cs
      match rest with
      | '-' :: ']' :: _ | '-' :: '-' :: _ =>
        if first = .place then none else closeClass? steps depth rest
      | '-' :: rest =>
        match first, ← member? rest with
        | .char a, (.char b, rest) => if a ≤ b then closeClass? steps depth rest else none
        | _, _ => none
      | rest => if first = .place then none else closeClass? steps depth rest

/-! ## Groups -/

def flags : List Char := ['i', 'm', 's', 'U', 'u', 'R', 'x']

/-- Flags, each at most once, some of which a dash may turn off. -/
def areFlags (cs : List Char) : Bool :=
  let letters := cs.filter (· != '-')
  letters.all flags.contains && letters.eraseDups.length == letters.length
    && cs.length ≤ letters.length + 1 && cs.getLast? != some '-'

def isName : List Char → Bool
  | [] => false
  | c :: cs =>
    (c = '_' || Unicode.isAlphanumeric c && !c.isDigit)
      && cs.all fun c => Unicode.isAlphanumeric c || ['_', '.', '[', ']'].contains c

/-- What an opening bracket begins. -/
inductive Opening where
  | group (name : Option (List Char))
  | flags

/-- A group or flags, behind the bracket that opens them, and the rest. -/
def opening? : List Char → Option (Opening × List Char)
  | '?' :: 'P' :: '<' :: cs | '?' :: '<' :: cs =>
    let name := cs.takeWhile (· != '>')
    if isName name && name.length < cs.length then
      some (.group (some name), cs.drop (name.length + 1))
    else none
  | '?' :: cs =>
    let signs := cs.takeWhile fun c => c != ':' && c != ')'
    match cs.drop signs.length with
    | ':' :: rest => if areFlags signs then some (.group none, rest) else none
    | ')' :: rest => if areFlags signs && signs != [] then some (.flags, rest) else none
    | _ => none
  | cs => some (.group none, cs)

/-! ## Patterns -/

/-- Is the rest of a pattern good, with `depth` groups open, the given names taken, and something
or nothing in front that could be repeated? -/
def isRest : (steps depth : Nat) → (names : List (List Char)) → (item : Bool) → List Char → Bool
  | 0, _, _, _, _ => false
  | steps + 1, depth, names, item, cs =>
    match cs with
    | [] => depth = 0
    | '(' :: cs =>
      match opening? cs with
      | none => false
      | some (.flags, rest) => isRest steps depth names false rest
      | some (.group none, rest) => isRest steps (depth + 1) names false rest
      | some (.group (some name), rest) =>
        !names.contains name && isRest steps (depth + 1) (name :: names) false rest
    | ')' :: cs => 0 < depth && isRest steps (depth - 1) names true cs
    | '|' :: cs => isRest steps depth names false cs
    | '[' :: cs =>
      match closeClass? (cs.length + 1) 1 (openClass cs) with
      | some rest => isRest steps depth names true rest
      | none => false
    | '\\' :: cs =>
      match escape? cs with
      | some (_, rest) => isRest steps depth names true rest
      | none => false
    | c :: cs =>
      if ['*', '+', '?'].contains c then
        item && isRest steps depth names true (if cs.head? = some '?' then cs.drop 1 else cs)
      else c != '\x7b' && isRest steps depth names true cs

end Pattern

/-- Is a text a pattern? -/
def isPattern (s : String) : Bool := Pattern.isRest (s.length + 1) 0 [] false s.toList

end Rollout.Log
