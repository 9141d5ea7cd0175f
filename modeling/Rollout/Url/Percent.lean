import Rollout.Unicode.Utf8

/-!
Percent-encoding: a byte that is not written as it is becomes a percent sign and two hexadecimal
digits.
-/
namespace Rollout.Url

def bytesOf (c : Char) : List UInt8 := (String.singleton c).toUTF8.toList

def upperHex (n : Nat) : Char := (Nat.digitChar n).toUpper

def encodeByte (b : UInt8) : List Char := ['%', upperHex (b.toNat / 16), upperHex (b.toNat % 16)]

/-- Encodes the characters of a set. Those outside ASCII are encoded with every set. -/
def encode (inSet : Char → Bool) (cs : List Char) : List Char :=
  cs.flatMap fun c =>
    if 0x7E < c.toNat || c.toNat < 0x20 || inSet c then (bytesOf c).flatMap encodeByte else [c]

def inFragmentSet (c : Char) : Bool := c ∈ [' ', '"', '<', '>', '`']

def inPathSet (c : Char) : Bool := inFragmentSet c || c ∈ ['#', '?', '\x7b', '\x7d']

def inUserSet (c : Char) : Bool :=
  inPathSet c || c ∈ ['/', ':', ';', '=', '@', '[', '\\', ']', '^', '|']

def inQuerySet (c : Char) : Bool := c ∈ [' ', '"', '#', '<', '>']

/-- Special schemes encode an apostrophe too. -/
def inSpecialQuerySet (c : Char) : Bool := inQuerySet c || c = '\''

/-- Characters that stand for themselves in a form. -/
def isFormPlain (c : Char) : Bool := c.isAlphanum || c ∈ ['*', '-', '.', '_']

/-- A form writes a blank as a plus sign and encodes all but a few characters. -/
def formEncode (s : String) : List Char :=
  s.toList.flatMap fun c =>
    if c = ' ' then ['+'] else if isFormPlain c then [c] else (bytesOf c).flatMap encodeByte

def hexValue? (c : Char) : Option Nat :=
  if c.isDigit then some (c.toNat - '0'.toNat)
  else if 'a' ≤ c ∧ c ≤ 'f' then some (c.toNat - 'a'.toNat + 10)
  else if 'A' ≤ c ∧ c ≤ 'F' then some (c.toNat - 'A'.toNat + 10)
  else none

/-- The bytes of a text with its percent signs resolved. One without two digits stands for
itself. -/
def decode : List Char → List UInt8
  | '%' :: a :: b :: cs =>
    match hexValue? a, hexValue? b with
    | some m, some n => UInt8.ofNat (m * 16 + n) :: decode cs
    | _, _ => '%'.toNat.toUInt8 :: decode (a :: b :: cs)
  | c :: cs => bytesOf c ++ decode cs
  | [] => []
termination_by cs => cs.length

end Rollout.Url
