import Rollout.Unicode.Composition
import Rollout.Unicode.Direction
import Rollout.Unicode.Joining
import Rollout.Url.Name.Refused
import Rollout.Url.Punycode

/-!
Names of hosts. A name consists of labels with dots between them. It is compared in the folded form
of its characters, composed, and written in ASCII. A label beyond ASCII has rules to keep, whether
it is given as it is or in its written form; where letters go to the left, all labels have to keep
to one direction each.
-/
namespace Rollout.Url.Name

/-- Characters of ASCII that stand for something else in a URL, besides controls and blanks. -/
def reserved : List Char := "%#/:<>?@[\\]^|".toList

def isForbidden (c : Char) : Bool := c.toNat ≤ 0x20 || c.toNat = 0x7F || reserved.contains c

/-- A label: its letters, and its text in ASCII. -/
structure Label where
  letters : List Char
  text : List Char

/-! ## Rules of a label -/

/-- What a label begins with that holds letters beyond ASCII in their written form. -/
def marker : List Char := "xn--".toList

/-- The written form that is read is at most this long, and the label that is written. -/
def maxRead : Nat := 2000
def maxWritten : Nat := 1000

/-- Is there a letter next to this place that joins it, when marks are passed over? -/
def isJoined (joins : Char → Bool) : List Char → Bool
  | [] => false
  | c :: cs => joins c || (Unicode.isTransparent c && isJoined joins cs)

def joiner : Char := Char.ofNat 0x200D
def nonJoiner : Char := Char.ofNat 0x200C

/-- A joiner stands behind a sign that takes a vowel away. There a non-joiner may stand as well, or
else between letters that would join. `before` is what is in front, in reverse. -/
def joinersFit (before : List Char) : List Char → Bool
  | [] => true
  | c :: cs =>
    let behindVirama := (before.head?.map Unicode.isVirama).getD false
    let fits :=
      if c = joiner then behindVirama
      else if c = nonJoiner then
        behindVirama || (isJoined Unicode.joinsNext before && isJoined Unicode.joinsPrevious cs)
      else true
    fits && joinersFit (c :: before) cs

/-- No label begins with a mark, or has joiners at other places than its own. -/
def isSound (letters : List Char) : Bool :=
  !(letters.head?.map Unicode.isMark).getD false && joinersFit [] letters

/-- The letters of a written form. None of them has another form. One at least is beyond ASCII, so
that the form ends in a number. -/
def lettersOf? (text : List Char) : Option (List Char) :=
  if text.any Punycode.isExtra || text.getLast?.getD '-' = '-' || maxRead < text.length then none
  else
    (Punycode.decode? text).filter fun letters =>
      letters.all (fun c => isSettled c && !isForbidden c && c != '.')
        && Unicode.composed letters == letters

/-- A label from its folded characters. -/
def label? (folded : List Char) : Option Label :=
  let label? :=
    if marker.isPrefixOf folded then
      (lettersOf? (folded.drop marker.length)).map fun letters => ⟨letters, folded⟩
    else if folded.any Punycode.isExtra then
      if maxWritten < folded.length then none
      else some ⟨folded, marker ++ Punycode.encode folded⟩
    else some ⟨folded, folded⟩
  label?.filter fun label => isSound label.letters

/-! ## Direction -/

/-- Does a name with this letter have a direction to keep? -/
def isTurning (c : Char) : Bool := Unicode.direction c ∈ [.leftward, .arabic]

/-- A label that begins with a letter goes its way: it holds no letter that goes the other way and
ends in a letter or a number, marks behind it left aside. One that goes to the left has numbers of
one kind, one that goes to the right only European ones. -/
def keepsDirection (letters : List Char) : Bool :=
  match letters.map Unicode.direction with
  | [] => true
  | first :: rest =>
    let last := (rest.reverse.dropWhile (· == .mark)).head?.getD first
    match first with
    | .rightward =>
      (last = .rightward || last = .european)
        && rest.all fun d => d != .leftward && d != .arabic
    | .leftward =>
      (last = .leftward || last = .european || last = .arabic)
        && rest.all (· != .rightward) && !(rest.contains .european && rest.contains .arabic)
    | _ => false

/-! ## Names -/

/-- A name in ASCII. -/
def ascii? (text : List Char) : Option (List Char) := do
  let forms ← text.mapM fold?
  let settled := Unicode.composed forms.flatten
  if settled.any isForbidden then none
  let labels ← (settled.splitOn '.').mapM label?
  let turns := labels.any fun label => label.letters.any isTurning
  if turns && !labels.all fun label => keepsDirection label.letters then none
  return ['.'].intercalate (labels.map Label.text)

end Rollout.Url.Name
