/-!
Sets of characters, given by ranges of their codes.
-/
namespace Rollout.Unicode

/-- Ranges with both ends included, in ascending order. -/
abbrev Ranges := List (Nat × Nat)

def Ranges.has (ranges : Ranges) (c : Char) : Bool :=
  ranges.any fun (first, last) => first ≤ c.toNat && c.toNat ≤ last

end Rollout.Unicode
