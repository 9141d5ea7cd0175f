/-!
Short forms for narrow lines: an error on one line, and the short form of an id. Lengths are in
bytes, and a character is never cut.
-/
namespace Rollout

def byteLength : List Char → Nat
  | [] => 0
  | c :: cs => c.utf8Size + byteLength cs

/-- The longest beginning of a text that has at most `limit` bytes. -/
def fitting : (limit : Nat) → List Char → List Char
  | _, [] => []
  | limit, c :: cs => if c.utf8Size ≤ limit then c :: fitting (limit - c.utf8Size) cs else []

/-- The longest error that is shown whole. -/
def maxErrorLength : Nat := 75

/-- An error on one line, cut with an ellipsis where it is too long. -/
def shortError (message : String) : String :=
  let flat := message.toList.map fun c => if c = '\n' then ' ' else c
  if byteLength flat ≤ maxErrorLength then String.ofList flat
  else String.ofList (fitting (maxErrorLength - 1) flat ++ ['…'])

def shortIdLength : Nat := 12

/-- What stands behind the first colon, or all of an id without one. -/
def idBody (cs : List Char) : List Char :=
  match cs.dropWhile (· != ':') with
  | [] => cs
  | _ :: body => body

/-- The first bytes of an id behind its kind. It stays whole where they would cut a character. -/
def shortId (id : String) : String :=
  let body := idBody id.toList
  let short := fitting shortIdLength body
  String.ofList (if byteLength short = shortIdLength then short else body)

end Rollout
