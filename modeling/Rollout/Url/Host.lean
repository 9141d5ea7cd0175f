import Rollout.Url.Name
import Rollout.Url.Percent

/-!
Hosts: names and addresses. A name that ends in a number is an address, and has to be a good one.
-/
namespace Rollout.Url

/-- Why a text is no URL. -/
inductive Flaw where
  | emptyHost
  | badName
  | badPort
  | badIpv4
  | badIpv6
  | noBase
  deriving Repr, DecidableEq

def Flaw.message : Flaw → String
  | .emptyHost => "empty host"
  | .badName => "invalid international domain name"
  | .badPort => "invalid port number"
  | .badIpv4 => "invalid IPv4 address"
  | .badIpv6 => "invalid IPv6 address"
  | .noBase => "relative URL without a base"

/-- An IPv6 address is given by its eight groups. -/
inductive Host where
  | name (text : List Char)
  | ipv4 (address : Nat)
  | ipv6 (groups : List Nat)
  deriving Repr, DecidableEq

namespace Host

def splitAtDots (cs : List Char) : List (List Char) := cs.splitOn '.'

/-! ## IPv4 -/

def digitsIn (base : Nat) (cs : List Char) : Option Nat :=
  cs.foldlM (fun n c =>
    match hexValue? c with
    | some d => if d < base then some (n * base + d) else none
    | none => none) 0

/-- A number in decimal, with a leading zero in octal, or behind `0x` in hexadecimal. -/
def part? (cs : List Char) : Option Nat :=
  match cs with
  | [] => none
  | '0' :: 'x' :: ds | '0' :: 'X' :: ds => digitsIn 16 ds
  | '0' :: d :: ds => digitsIn 8 (d :: ds)
  | ds => digitsIn 10 ds

/-- The parts between the dots. One dot may stand at the end. -/
def parts (cs : List Char) : List (List Char) :=
  match (splitAtDots cs).reverse with
  | [] :: rest => rest.reverse
  | all => all.reverse

def endsInNumber (cs : List Char) : Bool :=
  match (parts cs).getLast? with
  | none => false
  | some last => (!last.isEmpty && last.all Char.isDigit) || (part? last).isSome

/-- The last number fills all the bytes that the others leave. -/
def joinParts : List Nat → Option Nat
  | [] => none
  | ns =>
    let front := ns.dropLast
    let last := ns.getLast?.getD 0
    if 4 < ns.length || front.any (255 < ·) || Nat.pow 256 (4 - front.length) ≤ last then none
    else some (front.foldr (fun n (sum, weight) => (sum + n * weight, weight * 256))
      (last, Nat.pow 256 (4 - front.length)) |>.1)

def ipv4? (cs : List Char) : Option Nat := do joinParts (← (parts cs).mapM part?)

/-! ## IPv6 -/

/-- A group of at most four hexadecimal digits. -/
def group? (cs : List Char) : Option Nat :=
  if cs.isEmpty || 4 < cs.length then none else digitsIn 16 cs

/-- A byte in decimal, without zeros in front of it. -/
def byte? (cs : List Char) : Option Nat :=
  match cs with
  | ['0'] => some 0
  | '0' :: _ | [] => none
  | ds => if 3 < ds.length then none else (digitsIn 10 ds).filter (· ≤ 255)

/-- Four bytes with dots between them are two groups. -/
def dotted? (cs : List Char) : Option (List Nat) := do
  match ← (splitAtDots cs).mapM byte? with
  | [a, b, c, d] => some [a * 256 + b, c * 256 + d]
  | _ => none

/-- Groups with colons between them, the last of which may be dotted. -/
def groups? : List (List Char) → Option (List Nat)
  | [] => some []
  | [last] => if '.' ∈ last then dotted? last else (group? last).map ([·])
  | g :: gs => do return (← group? g) :: (← groups? gs)

/-- The text before and behind the first double colon. -/
def splitAtGap : List Char → Option (List Char × List Char)
  | ':' :: ':' :: cs => some ([], cs)
  | c :: cs => (splitAtGap cs).map fun (a, b) => (c :: a, b)
  | [] => none

def groupsOf (cs : List Char) : Option (List Nat) :=
  if cs.isEmpty then some [] else groups? (cs.splitOn ':')

/-- A double colon stands for the groups of zeros that are missing, at least one. -/
def ipv6? (cs : List Char) : Option (List Nat) :=
  match splitAtGap cs with
  | none => (groupsOf cs).filter (·.length = 8)
  | some (before, behind) => do
    let front ← groupsOf before
    let back ← groupsOf behind
    if '.' ∈ before || 7 < front.length + back.length then none
    else some (front ++ List.replicate (8 - front.length - back.length) 0 ++ back)

/-! ## Hosts -/

/-- An address, behind its opening bracket. -/
def ofBrackets (cs : List Char) : Except Flaw Host :=
  match cs.reverse with
  | ']' :: inner =>
    match ipv6? inner.reverse with
    | some groups => .ok (.ipv6 groups)
    | none => .error .badIpv6
  | _ => .error .badIpv6

/-- Characters that no host has. -/
def isForbidden (c : Char) : Bool :=
  c ∈ ['\x00', '\t', '\n', '\r', ' ', '#', '/', ':', '<', '>', '?', '@', '[', '\\', ']', '^', '|']

/-- A host that is taken as it is, with a scheme that is not special. -/
def ofOpaque (cs : List Char) : Except Flaw Host :=
  match cs with
  | '[' :: rest => ofBrackets rest
  | cs => if cs.any isForbidden then .error .badName else .ok (.name (encode (fun _ => false) cs))

/-- A host as it stands between the slashes and the port, with a special scheme. -/
def ofText (cs : List Char) : Except Flaw Host :=
  match cs with
  | '[' :: rest => ofBrackets rest
  | cs =>
    match (Utf8.text? (decode cs)).bind fun text => Name.ascii? text.toList with
    | none => .error .badName
    | some ascii =>
      if ascii.isEmpty then .error .emptyHost
      else if endsInNumber ascii then
        match ipv4? ascii with
        | some n => .ok (.ipv4 n)
        | none => .error .badIpv4
      else .ok (.name ascii)

/-! ## Text -/

/-- The longest run of zeros, as its start and length. Of equal ones the first counts. -/
def zeroRun (groups : List Nat) : Nat × Nat :=
  let runs := (List.range groups.length).map fun i =>
    (i, ((groups.drop i).takeWhile (· == 0)).length)
  runs.foldl (fun best run => if best.2 < run.2 then run else best) (0, 0)

def joinGroups (groups : List Nat) : List Char :=
  [':'].intercalate (groups.map (Nat.toDigits 16))

/-- Runs of at least two zeros are written as a double colon. -/
def ipv6Text (groups : List Nat) : List Char :=
  let (start, length) := zeroRun groups
  if length < 2 then joinGroups groups
  else joinGroups (groups.take start) ++ [':', ':'] ++ joinGroups (groups.drop (start + length))

def text : Host → List Char
  | .name text => text
  | .ipv4 n =>
    ['.'].intercalate ([3, 2, 1, 0].map fun i => (toString (n / Nat.pow 256 i % 256)).toList)
  | .ipv6 groups => '[' :: ipv6Text groups ++ [']']

end Host
end Rollout.Url
