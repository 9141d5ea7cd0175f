/-!
Durations as text: the largest unit that is not zero, with the digits behind the point that are
needed.
-/
namespace Rollout.Duration

/-- A number of units, of which each has so many parts. -/
def inUnits (whole part parts : Nat) : String :=
  if part = 0 then toString whole
  else
    let digits := ((toString (parts + part)).toList.drop 1).reverse.dropWhile (· = '0')
    toString whole ++ "." ++ String.ofList digits.reverse

/-- The text of a time in nanoseconds. -/
def text (ns : Nat) : String :=
  let unit (size : Nat) (name : String) : String := inUnits (ns / size) (ns % size) size ++ name
  if 1000000000 ≤ ns then unit 1000000000 "s"
  else if 1000000 ≤ ns then unit 1000000 "ms"
  else if 1000 ≤ ns then unit 1000 "µs"
  else unit 1 "ns"

end Rollout.Duration
