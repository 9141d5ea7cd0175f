import Rollout.Url.Host
import Rollout.Url.Scheme

/-!
The part of a URL between two slashes and the path: a user, a host and a port.
-/
namespace Rollout.Url

/-- Does the path end here? -/
def endsPath (c : Char) : Bool := c = '?' || c = '#'

def endsAuthority (s : Scheme) (c : Char) : Bool := s.isSlash c || endsPath c

/-- An authority as it is written, and the text behind it. A password is one that is not empty. -/
structure Authority where
  user : List Char
  password : Option (List Char)
  host : List Char
  port : List Char
  rest : List Char
  deriving Repr, DecidableEq

/-- The text in front of the last `@`, and the text behind it. -/
def splitUser (cs : List Char) : Option (List Char × List Char) :=
  if '@' ∈ cs then
    let behind := (cs.reverse.takeWhile (· != '@')).reverse
    some (cs.take (cs.length - behind.length - 1), behind)
  else none

/-- The host, up to a colon that is not between brackets or to the path, and the rest. -/
def splitHost (s : Scheme) (inBrackets : Bool) : List Char → List Char × List Char
  | [] => ([], [])
  | c :: cs =>
    if endsAuthority s c || c = ':' && !inBrackets then ([], c :: cs)
    else
      let inBrackets := c = '[' || inBrackets && c != ']'
      let (host, rest) := splitHost s inBrackets cs
      (c :: host, rest)

/-- A backslash ends a port with every scheme. -/
def endsPort (c : Char) : Bool := c = '/' || c = '\\' || endsPath c

def Authority.split (s : Scheme) (cs : List Char) : Authority :=
  let authority := cs.takeWhile fun c => !endsAuthority s c
  let (user, place) := match splitUser authority with
    | none => ([], cs)
    | some (user, behind) => (user, cs.drop (authority.length - behind.length))
  let (host, rest) := splitHost s false place
  let password := (user.dropWhile (· != ':')).drop 1
  let digits := match rest with
    | ':' :: rest => rest.takeWhile fun c => !endsPort c
    | _ => []
  ⟨encode inUserSet (user.takeWhile (· != ':')),
    if password.isEmpty then none else some (encode inUserSet password), host, digits,
    match rest with
    | ':' :: rest => rest.drop digits.length
    | rest => rest⟩

/-- A port of at most 65535. An empty one is the usual one. -/
def portOf (s : Scheme) (cs : List Char) : Except Flaw (Option Nat) :=
  if !cs.all Char.isDigit then .error .badPort
  else
    let n := cs.foldl (fun n c => n * 10 + (c.toNat - '0'.toNat)) 0
    if 65535 < n then .error .badPort
    else .ok (if cs.isEmpty || some n = s.usualPort? then none else some n)

end Rollout.Url
