/-!
Compact JSON text. In a string only quotes, backslashes and control characters are escaped; all
other characters stand for themselves. Nothing is written between tokens.
-/
namespace Rollout.Json

def escape (c : Char) : List Char :=
  match c with
  | '"' => ['\\', '"']
  | '\\' => ['\\', '\\']
  | '\x08' => ['\\', 'b']
  | '\x0c' => ['\\', 'f']
  | '\n' => ['\\', 'n']
  | '\r' => ['\\', 'r']
  | '\t' => ['\\', 't']
  | c =>
    if c.toNat < 0x20 then
      ['\\', 'u', '0', '0', Nat.digitChar (c.toNat / 16), Nat.digitChar (c.toNat % 16)]
    else [c]

namespace Print

def text (s : String) : List Char := '"' :: s.toList.flatMap escape ++ ['"']

def natural (n : Nat) : List Char := (toString n).toList

def integer (n : Int) : List Char := (toString n).toList

def flag (b : Bool) : List Char := (if b then "true" else "false").toList

/-- Items with commas between them. -/
def separated : List (List Char) → List Char
  | [] => []
  | [x] => x
  | x :: xs => x ++ ',' :: separated xs

def list (print : α → List Char) (xs : List α) : List Char :=
  '[' :: separated (xs.map print) ++ [']']

/-- A key with the text of its value. -/
def member (key : String) (value : List Char) : List Char := text key ++ ':' :: value

def object (members : List (List Char)) : List Char := '{' :: separated members ++ ['}']

/-- A member that is left out when there is no value. -/
def optional (key : String) (print : α → List Char) : Option α → List (List Char)
  | none => []
  | some a => [member key (print a)]

end Print
end Rollout.Json
