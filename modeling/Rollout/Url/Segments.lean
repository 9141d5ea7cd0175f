import Rollout.Url.Percent

/-!
Paths: segments with slashes between them. Dots in a path are resolved while it is read.
-/
namespace Rollout.Url

/-- The texts between the slashes. -/
def segments (isSlash : Char → Bool) : List Char → List (List Char)
  | [] => [[]]
  | c :: cs =>
    if isSlash c then [] :: segments isSlash cs
    else
      match segments isSlash cs with
      | [] => [[c]]
      | s :: rest => (c :: s) :: rest

/-- Percent signs that stand for dots, resolved. -/
def dots : List Char → List Char
  | '%' :: '2' :: 'e' :: cs | '%' :: '2' :: 'E' :: cs => '.' :: dots cs
  | c :: cs => c :: dots cs
  | [] => []

def isDot (s : List Char) : Bool := dots s == ['.']
def isDoubleDot (s : List Char) : Bool := dots s == ['.', '.']

/-- A letter with a colon or a bar behind it names a drive. -/
def isDrive : List Char → Bool
  | [letter, mark] => letter.isAlpha && (mark = ':' || mark = '|')
  | _ => false

/-- Leaves the last segment, which stands first here. A drive cannot be left. -/
def leave : List (List Char) → List (List Char)
  | [] => []
  | s :: rest => if isDrive s then s :: rest else rest

/-- Segments behind those of `done`, which are in reverse. One dot stays where it is and two dots
go up; at the end both leave an empty segment. -/
def resolve (done : List (List Char)) : List (List Char) → List (List Char)
  | [] => done.reverse
  | s :: rest =>
    let done := if isDoubleDot s then leave done else if isDot s then done
      else encode inPathSet s :: done
    if rest.isEmpty && (isDoubleDot s || isDot s) then ([] :: done).reverse else resolve done rest

end Rollout.Url
