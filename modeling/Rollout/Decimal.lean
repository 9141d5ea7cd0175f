/-!
Decimal text of floats: the fewest digits that read back, written positionally with at least one
digit on each side of the point.
-/
namespace Rollout

/-- The number `digits * 10 ^ exponent`. -/
structure Decimal where
  digits : Nat
  exponent : Int
  deriving Repr, DecidableEq

namespace Decimal

/-- The numbers `n / scale` that round to one float: the float itself is `mid / scale`, and the
ends `low` and `high` belong to the interval or not. -/
structure Interval where
  low : Nat
  mid : Nat
  high : Nat
  scale : Nat
  closed : Bool
  deriving Repr, DecidableEq

/-- The interval of a positive finite float in units of `2 ^ power / 4`. Below a power of two the
floats stand twice as close. -/
def interval (bits : UInt64) : Interval :=
  let exponent := bits.toNat / Nat.pow 2 52 % Nat.pow 2 11
  let fraction := bits.toNat % Nat.pow 2 52
  let mid := if exponent = 0 then fraction else fraction + Nat.pow 2 52
  let power : Int := (if exponent = 0 then 1 else exponent : Nat) - 1077
  let below := if fraction = 0 ∧ 1 < exponent then 1 else 2
  let unit := Nat.pow 2 power.toNat
  ⟨(4 * mid - below) * unit, 4 * mid * unit, (4 * mid + 2) * unit, Nat.pow 2 (-power).toNat,
    mid % 2 = 0⟩

/-- Is `n / (scale * unit)` in the interval, all of whose bounds are multiplied by `unit`? -/
def Interval.has (i : Interval) (n : Nat) : Bool :=
  if i.closed then i.low ≤ n && n ≤ i.high else i.low < n && n < i.high

/-- The interval in units of `10 ^ exponent`. -/
def Interval.inUnits (i : Interval) (exponent : Int) : Interval :=
  let up := Nat.pow 10 (-exponent).toNat
  ⟨i.low * up, i.mid * up, i.high * up, i.scale * Nat.pow 10 exponent.toNat, i.closed⟩

/-- The multiple of `10 ^ exponent` in the interval that is nearest to its float. -/
def Interval.nearest? (i : Interval) (exponent : Int) : Option Nat :=
  let j := i.inUnits exponent
  let n := j.mid / j.scale
  let down := j.has (n * j.scale)
  let up := j.has ((n + 1) * j.scale)
  if down && (!up || j.mid - n * j.scale ≤ (n + 1) * j.scale - j.mid) then some n
  else if up then some (n + 1)
  else none

/-- The first hit on ever finer grids. -/
def search (i : Interval) : (steps : Nat) → Int → Decimal
  | 0, exponent => ⟨0, exponent⟩
  | steps + 1, exponent =>
    match i.nearest? exponent with
    | some n => ⟨n, exponent⟩
    | none => search i steps (exponent - 1)

/-- The shortest decimal that reads back as the finite float with these bits. -/
def ofBits (bits : UInt64) : Decimal :=
  if bits.toNat % Nat.pow 2 63 = 0 then ⟨0, 0⟩ else search (interval bits) 640 309

def isNegative (bits : UInt64) : Bool := Nat.pow 2 63 ≤ bits.toNat

/-- The positional text of a decimal. -/
def text (d : Decimal) : String :=
  let digits := toString d.digits
  if 0 ≤ d.exponent then digits ++ "".pushn '0' d.exponent.toNat ++ ".0"
  else
    let places := (-d.exponent).toNat
    let padded := ("".pushn '0' (places + 1 - digits.length) ++ digits).toList
    let whole := padded.length - places
    String.ofList (padded.take whole) ++ "." ++ String.ofList (padded.drop whole)

def textOfBits (bits : UInt64) : String :=
  (if isNegative bits then "-" else "") ++ (ofBits bits).text

end Decimal
end Rollout
