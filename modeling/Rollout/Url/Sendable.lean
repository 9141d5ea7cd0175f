import Rollout.Url.Parse

/-!
What can be put into a request. Requests hold addresses of a stricter form than URLs have: an
authority is of few characters, and a text without a scheme and two slashes has to be nothing but
an authority.
-/
namespace Rollout.Url

/-- What is known of an authority, character by character. Colons and percent signs count from the
last bracket or user on. -/
structure Grip where
  colons : Nat
  isOpen : Bool
  isClosed : Bool
  hasPercent : Bool
  endsUser : Bool
  deriving Repr, DecidableEq

def isPlain (c : Char) : Bool :=
  c.isAlphanum || c ∈ ['!', '$', '&', '\'', '(', ')', '*', '+', ',', '-', '.', ';', '=', '_', '~']

/-- The next character of an authority. One has eight colons between brackets at most. -/
def Grip.next? (g : Grip) (c : Char) : Option Grip :=
  let g := { g with endsUser := false }
  match c with
  | ':' => if g.colons < 8 then some { g with colons := g.colons + 1 } else none
  | '[' => if g.isOpen || g.hasPercent then none else some { g with isOpen := true }
  | ']' =>
    if g.isOpen && !g.isClosed then
      some { g with isClosed := true, colons := 0, hasPercent := false }
    else none
  | '@' => some { g with colons := 0, hasPercent := false, endsUser := true }
  | '%' => some { g with hasPercent := true }
  | c => if isPlain c then some g else none

/-- One colon may stand in front of a port; a host has no percent signs. -/
def isAuthority (cs : List Char) : Bool :=
  match cs.foldlM Grip.next? ⟨0, false, false, false, false⟩ with
  | none => false
  | some g => g.isOpen = g.isClosed && g.colons ≤ 1 && !g.hasPercent && !g.endsUser

def longest : Nat := 65534
def longestScheme : Nat := 64

def Goal.isSendable (g : Goal) : Bool :=
  (String.ofList g.text).utf8ByteSize ≤ longest &&
    match g with
    | .url u =>
      u.scheme.name.length ≤ longestScheme && u.authorityText != [] && isAuthority u.authorityText
    | .plain text => isAuthority text

end Rollout.Url
