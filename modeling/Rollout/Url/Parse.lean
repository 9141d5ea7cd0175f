import Rollout.Url.Authority
import Rollout.Url.Basic
import Rollout.Url.Segments

/-!
Reading URLs. A text is read on its own or relative to another URL; dots in the path are resolved.
-/
namespace Rollout.Url

/-- Controls and blanks at the ends do not count, nor do tabs and line breaks anywhere. -/
def clean (cs : List Char) : List Char :=
  let isControl := fun c : Char => c.toNat ≤ 0x20
  let cs := cs.dropWhile isControl
  ((cs.reverse.dropWhile isControl).reverse).filter fun c => !(c = '\t' || c = '\n' || c = '\r')

/-! ## Parts behind the path -/

structure Tail where
  query : Option (List Char)
  fragment : Option (List Char)

def fragmentOf : List Char → Option (List Char)
  | '#' :: cs => some (encode inFragmentSet cs)
  | _ => none

/-- The query and the fragment, from a question mark or a hash on. -/
def tailOf (s : Scheme) : List Char → Tail
  | '?' :: cs =>
    let set := if s.isSpecial then inSpecialQuerySet else inQuerySet
    ⟨some (encode set (cs.takeWhile (· != '#'))), fragmentOf (cs.dropWhile (· != '#'))⟩
  | cs => ⟨none, fragmentOf cs⟩

/-! ## URLs with a host -/

/-- The path at the start of a text. A special scheme has one even if nothing is written. -/
def pathOf (s : Scheme) (cs : List Char) : List (List Char) :=
  let written := match cs with
    | c :: rest => if s.isSlash c then rest else cs
    | [] => []
  if cs.isEmpty && !s.isSpecial then [] else resolve [] (segments s.isSlash written)

/-- A URL from its user on, the slashes in front of which have been read. -/
def ofAuthority (s : Scheme) (cs : List Char) : Except Flaw Url := do
  let a := Authority.split s cs
  if a.host.isEmpty then throw .emptyHost
  let host ← if s.isSpecial then Host.ofText a.host else Host.ofOpaque a.host
  let port ← portOf s a.port
  let tail := tailOf s (a.rest.dropWhile fun c => !endsPath c)
  return ⟨s, a.user, a.password, host, port, pathOf s (a.rest.takeWhile fun c => !endsPath c),
    tail.query, tail.fragment⟩

/-- A URL of a file on another host, the slashes in front of which have been read. A drive is on
this host. -/
def ofFileHost (cs : List Char) : Except Flaw Url := do
  let name := cs.takeWhile fun c => !endsAuthority .file c
  let rest := cs.drop name.length
  let tail := tailOf .file (rest.dropWhile fun c => !endsPath c)
  if name.isEmpty || isDrive name then throw .emptyHost
  let host ← Host.ofText name
  let path := pathOf .file (rest.takeWhile fun c => !endsPath c)
  if host = .name "localhost".toList || path.head?.any isDrive then throw .emptyHost
  let path := match path.dropWhile List.isEmpty with
    | [] => [[]]
    | path => path
  return ⟨.file, [], none, host, none, path, tail.query, tail.fragment⟩

/-! ## Texts -/

/-- Does a scheme start here, and which? -/
def schemeOf? (cs : List Char) : Option (Scheme × List Char) :=
  let name := cs.takeWhile fun c => c.isAlphanum || c = '+' || c = '-' || c = '.'
  match name, cs.drop name.length with
  | c :: _, ':' :: rest =>
    if c.isAlpha then some (.ofName (name.map Char.toLower), rest) else none
  | _, _ => none

/-- What a text leads to: a URL with a host, or something that only its text names. -/
inductive Goal where
  | url (u : Url)
  | plain (text : List Char)
  deriving Repr, DecidableEq

def Goal.text : Goal → List Char
  | .url u => u.text.toList
  | .plain text => text

/-- A text without a scheme, relative to a URL of a special scheme. -/
def relative (base : Url) (cs : List Char) : Except Flaw Url :=
  let s := base.scheme
  match cs with
  | [] => .ok { base with fragment := none }
  | '/' :: '/' :: rest => ofAuthority s rest
  | c :: rest =>
    if s.isSlash c then
      if rest.head?.any s.isSlash then ofAuthority s (rest.dropWhile s.isSlash)
      else behind [] rest
    else if c = '?' then
      let tail := tailOf s cs
      .ok { base with query := tail.query, fragment := tail.fragment }
    else if c = '#' then .ok { base with fragment := fragmentOf cs }
    else behind base.path.dropLast.reverse cs
where
  behind (front : List (List Char)) (cs : List Char) : Except Flaw Url :=
    let tail := tailOf base.scheme (cs.dropWhile fun c => !endsPath c)
    .ok { base with
      path := resolve front (segments base.scheme.isSlash (cs.takeWhile fun c => !endsPath c))
      query := tail.query
      fragment := tail.fragment }

/-- The text of something that has no host. A path that would seem to begin with one gets a dot
in front. -/
def plainText (s : Scheme) (cs : List Char) : List Char :=
  let path := cs.takeWhile fun c => !endsPath c
  let tail := tailOf s (cs.dropWhile fun c => !endsPath c)
  let shown := match path with
    | '/' :: rest =>
      match (resolve [] (segments s.isSlash rest)).flatMap fun s => '/' :: s with
      | '/' :: '/' :: rest => "/.//".toList ++ rest
      | path => path
    | path => encode (fun _ => false) path
  s.name ++ ':' :: shown ++ (match tail.query with
    | some q => '?' :: q
    | none => []) ++ match tail.fragment with
    | some f => '#' :: f
    | none => []

/-- Reads a text, relative to a URL where there is one. With the scheme of that URL and fewer than
two slashes it is relative all the same. -/
def read (base : Option Url) (text : List Char) : Except Flaw Goal := do
  let cs := clean text
  match schemeOf? cs with
  | none =>
    match base with
    | some base => return .url (← relative base cs)
    | none => throw .noBase
  | some (.file, a :: b :: rest) =>
    if Scheme.file.isSlash a && Scheme.file.isSlash b then return .url (← ofFileHost rest)
    else throw .emptyHost
  | some (.file, _) => throw .emptyHost
  | some (.other name, '/' :: '/' :: rest) => return .url (← ofAuthority (.other name) rest)
  | some (.other name, rest) => return .plain (plainText (.other name) rest)
  | some (s, rest) =>
    let slashes := (rest.takeWhile s.isSlash).length
    match base.filter fun b => b.scheme = s && slashes < 2 with
    | some base => return .url (← relative base rest)
    | none => return .url (← ofAuthority s (rest.dropWhile s.isSlash))

end Rollout.Url
