import Rollout.Url.Host
import Rollout.Url.Scheme

/-!
URLs that name a host, and their text.
-/
namespace Rollout

/-- Where a URL leads. All parts are encoded. The path is a list of segments; the port is absent
where it is the usual one. -/
structure Url where
  scheme : Url.Scheme
  user : List Char
  password : Option (List Char)
  host : Url.Host
  port : Option Nat
  path : List (List Char)
  query : Option (List Char)
  fragment : Option (List Char)
  deriving Repr, DecidableEq

namespace Url

/-- The port that a connection is made to. -/
def portNumber (u : Url) : Nat := u.port.getD (u.scheme.usualPort?.getD 0)

/-! ## Text -/

/-- The user and perhaps a password, with the sign that ends them. -/
def userText (u : Url) : List Char :=
  match u.user, u.password with
  | [], none => []
  | user, none => user ++ ['@']
  | user, some password => user ++ ':' :: password ++ ['@']

/-- The host, and the port where it is not the usual one. -/
def place (u : Url) : List Char :=
  u.host.text ++ match u.port with
    | some n => ':' :: (toString n).toList
    | none => []

/-- What stands between the two slashes and the path. -/
def authorityText (u : Url) : List Char := u.userText ++ u.place

def pathText (u : Url) : List Char := u.path.flatMap fun s => '/' :: s

def queryText (u : Url) : List Char :=
  match u.query with
  | some q => '?' :: q
  | none => []

def fragmentText (u : Url) : List Char :=
  match u.fragment with
  | some f => '#' :: f
  | none => []

def text (u : Url) : String :=
  String.ofList (u.scheme.name ++ [':', '/', '/'] ++ u.authorityText ++ u.pathText ++ u.queryText
    ++ u.fragmentText)

/-- What is asked of the server. -/
def target (u : Url) : String := String.ofList (u.pathText ++ u.queryText)

/-! ## Changes -/

/-- Adds pairs to the query, which is there afterwards even if there are none. -/
def withPairs (u : Url) (pairs : List (String × String)) : Url :=
  let written := pairs.map fun (k, v) => formEncode k ++ '=' :: formEncode v
  let parts := (match u.query with
    | none | some [] => []
    | some q => [q]) ++ written
  { u with query := some (['&'].intercalate parts) }

/-- The URL as far as a server sees it: no fragment, and a path in any case. -/
def asked (u : Url) : Url :=
  { u with fragment := none, path := if u.path.isEmpty then [[]] else u.path }

/-- A text with its percent signs resolved, if it is one. -/
def decoded? (cs : List Char) : Option String := Utf8.text? (decode cs)

/-- The URL without its user, which no request shows. A user whose name is no text stays. -/
def withoutUser (u : Url) : Url :=
  match decoded? u.user with
  | none => u
  | some name =>
    if name = "" ∧ (u.password.bind decoded?).isNone then u
    else { u with user := [], password := none }

end Url
end Rollout
