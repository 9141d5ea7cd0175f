/-!
Paths as text: names with slashes between them.
-/
namespace Rollout.Path

def isAbsolute (path : String) : Bool := path.toList.head? == some '/'

/-- The text between the slashes of a path, from left to right. -/
def pieces (path : String) : List String := (path.toList.splitOn '/').map String.ofList

/-- The names of a path. Empty ones, and single dots behind the first name, say nothing. -/
def names (path : String) : List String :=
  match (pieces path).filter (· != "") with
  | [] => []
  | "." :: rest =>
    if isAbsolute path then rest.filter (· != ".") else "." :: rest.filter (· != ".")
  | first :: rest => first :: rest.filter (· != ".")

/-- One path inside another. An absolute path stands for itself. -/
def join (base path : String) : String :=
  if isAbsolute path || base = "" then path
  else if base.toList.getLast? == some '/' then base ++ path
  else base ++ "/" ++ path

def ofNames (absolute : Bool) (names : List String) : String :=
  (if absolute then "/" else "") ++ "/".intercalate names

/-- Pieces without the empty ones and the single dots at the end. The first piece stays. -/
def trimEnd : List String → List String
  | [] => []
  | first :: rest =>
    first :: (rest.reverse.dropWhile fun p => p = "" || p = ".").reverse

/-- The path without its last name. The root and the empty path have none. -/
def parent? (path : String) : Option String :=
  match trimEnd (pieces path) with
  | [] | [""] => none
  | ps =>
    match trimEnd ps.dropLast with
    | [""] => some "/"
    | ps => some ("/".intercalate ps)

end Rollout.Path
