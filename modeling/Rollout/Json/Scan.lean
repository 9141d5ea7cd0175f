import Rollout.Json.Fault

/-!
The characters of a JSON text: blanks, literals, strings and numbers. A text is a list of scalars;
a scalar is a character, or nothing where the bytes spell no character. Each scanner returns the
rest of the text behind what it read.
-/
namespace Rollout.Json

abbrev Scalar := Option Char
abbrev Text := List Scalar

def Text.ofString (s : String) : Text := s.toList.map some

def isBlank (c : Char) : Bool := c == ' ' || c == '\n' || c == '\t' || c == '\r'

def skipBlank : Text → Text
  | some c :: s => if isBlank c then skipBlank s else some c :: s
  | s => s

/-- Bytes in the written form of a text. A scalar without a character stands for one byte. -/
def byteCount : Text → Nat
  | [] => 0
  | some c :: s => c.utf8Size + byteCount s
  | none :: s => 1 + byteCount s

/-- Reads the given characters and nothing else. -/
def literal : List Char → Text → Except Fault Text
  | [], s => .ok s
  | _ :: _, [] => .error .endOfValue
  | c :: cs, x :: s => if x = some c then literal cs s else .error .expectedLiteral

def hexDigit (c : Char) : Option Nat :=
  if '0' ≤ c ∧ c ≤ '9' then some (c.toNat - '0'.toNat)
  else if 'a' ≤ c ∧ c ≤ 'f' then some (c.toNat - 'a'.toNat + 10)
  else if 'A' ≤ c ∧ c ≤ 'F' then some (c.toNat - 'A'.toNat + 10)
  else none

/-- The number that four hexadecimal digits spell. -/
def hexCode (a b c d : Scalar) : Option Nat := do
  let a ← hexDigit (← a)
  let b ← hexDigit (← b)
  let c ← hexDigit (← c)
  let d ← hexDigit (← d)
  return ((a * 16 + b) * 16 + c) * 16 + d

/-- The fault of an escape whose four digits are not there. -/
def shortHex (s : Text) : Fault := if byteCount s < 4 then .endOfString else .badEscape

/-- The character that a one-letter escape stands for. -/
def unescape : Char → Option Char
  | '"' => some '"'
  | '\\' => some '\\'
  | '/' => some '/'
  | 'b' => some '\x08'
  | 'f' => some '\x0c'
  | 'n' => some '\n'
  | 'r' => some '\r'
  | 't' => some '\t'
  | _ => none

def isControl : Scalar → Bool
  | some c => c.toNat < 0x20
  | none => false

def isHighSurrogate (n : Nat) : Bool := 0xD800 ≤ n && n ≤ 0xDBFF
def isLowSurrogate (n : Nat) : Bool := 0xDC00 ≤ n && n ≤ 0xDFFF

/-- The code point of a surrogate pair. -/
def joinSurrogates (high low : Nat) : Nat := (high - 0xD800) * 0x400 + (low - 0xDC00) + 0x10000

/-- The scalars of a string up to its closing quote, escapes resolved. The opening quote has been
read. A surrogate has to be half of a pair. -/
def scanString : Text → Except Fault (Text × Text)
  | [] => .error .endOfString
  | some '"' :: s => .ok ([], s)
  | some '\\' :: some 'u' :: a :: b :: c :: d :: s =>
    match hexCode a b c d with
    | none => .error .badEscape
    | some n =>
      if isLowSurrogate n then .error .loneSurrogate
      else if isHighSurrogate n then
        match s with
        | some '\\' :: some 'u' :: e :: f :: g :: h :: s =>
          match hexCode e f g h with
          | none => .error .badEscape
          | some m =>
            if isLowSurrogate m then
              match scanString s with
              | .ok (t, r) => .ok (some (Char.ofNat (joinSurrogates n m)) :: t, r)
              | .error e => .error e
            else .error .loneSurrogate
        | some '\\' :: some 'u' :: s => .error (shortHex s)
        | [] | [some '\\'] => .error .endOfString
        | _ => .error .cutSurrogate
      else
        match scanString s with
        | .ok (t, r) => .ok (some (Char.ofNat n) :: t, r)
        | .error e => .error e
  | some '\\' :: some 'u' :: s => .error (shortHex s)
  | [some '\\'] => .error .endOfString
  | some '\\' :: x :: s =>
    match x.bind unescape with
    | none => .error .badEscape
    | some c =>
      match scanString s with
      | .ok (t, r) => .ok (some c :: t, r)
      | .error e => .error e
  | x :: s =>
    if isControl x then .error .controlCharacter
    else
      match scanString s with
      | .ok (t, r) => .ok (x :: t, r)
      | .error e => .error e

/-- All the characters of a text, if each of its scalars is one. -/
def characters? : Text → Option (List Char)
  | [] => some []
  | some c :: s => (characters? s).map (c :: ·)
  | none :: _ => none

/-- A string behind its opening quote. All of it has to be characters. -/
def readString (s : Text) : Except Fault (String × Text) :=
  match scanString s with
  | .error e => .error e
  | .ok (t, r) =>
    match characters? t with
    | some cs => .ok (String.ofList cs, r)
    | none => .error .badCodePoint

def isDigit (c : Char) : Bool := '0' ≤ c && c ≤ '9'

def digitValue (c : Char) : Nat := c.toNat - '0'.toNat

/-- The digits that a text starts with, and the rest. -/
def takeDigits : Text → List Nat × Text
  | some c :: s =>
    if isDigit c then
      let (ds, r) := takeDigits s
      (digitValue c :: ds, r)
    else ([], some c :: s)
  | s => ([], s)

/-- A number as it was read. A float is given by its bits. -/
inductive Number where
  | natural (n : Nat)
  | negative (n : Int)
  | float (bits : UInt64)
  deriving Repr, DecidableEq

def Number.found : Number → Found
  | .natural n => .integer n
  | .negative n => .integer n
  | .float bits => .float bits

def maxWord : Nat := Nat.pow 2 64 - 1

/-- The digits of a whole part gathered in one word: its value, and how many digits did not fit. -/
def gather (significand spare : Nat) : List Nat → Nat × Nat
  | [] => (significand, spare)
  | d :: ds =>
    if 0 < spare ∨ maxWord < significand * 10 + d then gather significand (spare + 1) ds
    else gather (significand * 10 + d) 0 ds

/-- The digits of a fraction added to the word while they fit, and how many did. -/
def gatherFraction (significand used : Nat) : List Nat → Nat × Nat
  | [] => (significand, used)
  | d :: ds =>
    if maxWord < significand * 10 + d then (significand, used)
    else gatherFraction (significand * 10 + d) (used + 1) ds

def tenTo (n : Nat) : Float := Float.ofScientific 1 false n

/-- A float divided by a power of ten, in steps that the powers allow. -/
def divideByTens (x : Float) (n : Nat) : Float :=
  if n ≤ 308 then x / tenTo n
  else if x == 0 then x
  else divideByTens (x / tenTo 308) (n - 308)
termination_by n
decreasing_by omega

/-- Significand times the power of ten, unless that exceeds every finite float. -/
def magnitude? (significand : Nat) (exponent : Int) : Option Float :=
  let x := Float.ofNat significand
  if exponent < 0 then some (divideByTens x (-exponent).toNat)
  else if significand = 0 then some x
  else if 308 < exponent then none
  else
    let x := x * tenTo exponent.toNat
    if x.isInf then none else some x

def signed (negative : Bool) (x : Float) : Number := .float (if negative then -x else x).toBits

def floatOf (negative : Bool) (significand : Nat) (exponent : Int) (s : Text) :
    Except Fault (Number × Text) :=
  match magnitude? significand exponent with
  | none => .error .numberOutOfRange
  | some x => .ok (signed negative x, s)

/-- The largest exponent that is computed with. -/
def maxExponent : Nat := Nat.pow 2 31 - 1

/-- The exponent of a number behind its mark. -/
def scanExponent (negative : Bool) (significand : Nat) (exponent : Int) (s : Text) :
    Except Fault (Number × Text) :=
  let (down, s) := match s with
    | some '+' :: s => (false, s)
    | some '-' :: s => (true, s)
    | s => (false, s)
  match takeDigits s with
  | ([], []) => .error .endOfValue
  | ([], _ :: _) => .error .badNumber
  | (ds, r) =>
    let e := ds.foldl (fun e d => e * 10 + d) 0
    if maxExponent < e then
      if significand != 0 && !down then .error .numberOutOfRange else .ok (signed negative 0, r)
    else floatOf negative significand (if down then exponent - e else exponent + e) r

/-- The fraction of a number behind its point. -/
def scanFraction (negative : Bool) (significand : Nat) (exponent : Int) (s : Text) :
    Except Fault (Number × Text) :=
  match takeDigits s with
  | ([], []) => .error .endOfValue
  | ([], _ :: _) => .error .badNumber
  | (ds, r) =>
    let (sig, used) := gatherFraction significand 0 ds
    match r with
    | some 'e' :: r | some 'E' :: r => scanExponent negative sig (exponent - used) r
    | r => floatOf negative sig (exponent - used) r

/-- What follows the whole part of a number. Without a fraction or an exponent the number is an
integer if it fits a word of its sign, and a float otherwise; minus zero is a float. -/
def scanTail (negative : Bool) (significand spare : Nat) (s : Text) :
    Except Fault (Number × Text) :=
  match s with
  | some '.' :: r => scanFraction negative significand spare r
  | some 'e' :: r | some 'E' :: r => scanExponent negative significand spare r
  | s =>
    if 0 < spare then floatOf negative significand spare s
    else if negative then
      if significand = 0 ∨ Nat.pow 2 63 < significand then
        .ok (signed true (Float.ofNat significand), s)
      else .ok (.negative (-(significand : Int)), s)
    else .ok (.natural significand, s)

/-- A number behind its sign. A zero is not followed by another digit. -/
def scanUnsigned (negative : Bool) (s : Text) : Except Fault (Number × Text) :=
  match s with
  | [] => .error .endOfValue
  | some '0' :: r =>
    match r with
    | some c :: _ => if isDigit c then .error .badNumber else scanTail negative 0 0 r
    | r => scanTail negative 0 0 r
  | s =>
    match takeDigits s with
    | ([], _) => .error .badNumber
    | (ds, r) =>
      let (sig, spare) := gather 0 0 ds
      scanTail negative sig spare r

/-- A number, if one starts here. -/
def scanNumber (s : Text) : Except Fault (Number × Text) :=
  match s with
  | some '-' :: r => scanUnsigned true r
  | s => scanUnsigned false s

def startsNumber : Scalar → Bool
  | some c => c == '-' || isDigit c
  | none => false

end Rollout.Json
