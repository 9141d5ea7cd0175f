/-!
White space in the sense of Unicode, and texts without it at their ends.
-/
namespace Rollout.Unicode

def isSpace (c : Char) : Bool :=
  let n := c.toNat
  0x9 ≤ n && n ≤ 0xD || n == 0x20 || n == 0x85 || n == 0xA0 || n == 0x1680
    || 0x2000 ≤ n && n ≤ 0x200A || n == 0x2028 || n == 0x2029 || n == 0x202F || n == 0x205F
    || n == 0x3000

def trimEnd (p : Char → Bool) (cs : List Char) : List Char := (cs.reverse.dropWhile p).reverse

def trim (cs : List Char) : List Char := trimEnd isSpace (cs.dropWhile isSpace)

def isBlank (s : String) : Bool := s.toList.all isSpace

end Rollout.Unicode
