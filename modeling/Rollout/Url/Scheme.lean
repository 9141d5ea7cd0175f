/-!
Schemes of URLs. Two of them can be asked for; the others are read all the same, since a server may
send a client anywhere.
-/
namespace Rollout.Url

inductive Scheme where
  | http
  | https
  | ws
  | wss
  | ftp
  | file
  | other (name : List Char)
  deriving Repr, DecidableEq

namespace Scheme

def name : Scheme → List Char
  | .http => ['h', 't', 't', 'p']
  | .https => ['h', 't', 't', 'p', 's']
  | .ws => ['w', 's']
  | .wss => ['w', 's', 's']
  | .ftp => ['f', 't', 'p']
  | .file => ['f', 'i', 'l', 'e']
  | .other name => name

def known : List Scheme := [.http, .https, .ws, .wss, .ftp, .file]

/-- The scheme with a name in small letters. -/
def ofName (name : List Char) : Scheme :=
  (known.find? fun s => s.name == name).getD (.other name)

/-- Special schemes name a host of the net, have a path in any case, and take backslashes for
slashes. -/
def isSpecial : Scheme → Bool
  | .other _ => false
  | _ => true

/-- Can a URL of this scheme be asked for? -/
def isWeb (s : Scheme) : Bool := s = .http || s = .https

def usualPort? : Scheme → Option Nat
  | .http | .ws => some 80
  | .https | .wss => some 443
  | .ftp => some 21
  | .file | .other _ => none

def isSlash (s : Scheme) (c : Char) : Bool := c = '/' || c = '\\' && s.isSpecial

end Scheme
end Rollout.Url
