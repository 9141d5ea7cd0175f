import Rollout.Engine.Exchange

/-!
Requests and responses as bytes on a connection. A request asks for its connection to be closed, so
all that comes back is the response: a line with the status, headers, an empty line and a body. The
body ends where its chunks or its length say, or else with the connection.
-/
namespace Rollout.Message

/-- The text of a request. -/
def request (u : Url) : String :=
  "GET " ++ u.target ++ " HTTP/1.1\r\nhost: " ++ String.ofList u.place
    ++ "\r\naccept: */*\r\nconnection: close\r\n\r\n"

/-! ## Head -/

/-- The first line without its end, and what is behind it. -/
def line? (bs : List UInt8) : Option (List UInt8 × List UInt8) :=
  match bs.span (· != 0x0A) with
  | (_, []) => none
  | (line, _ :: rest) =>
    some (if line.getLast? == some 0x0D then line.dropLast else line, rest)

def isSpace (b : UInt8) : Bool := b == 0x20 || b == 0x09

/-- Bytes that values consist of: all but the controls. -/
def inValue (b : UInt8) : Bool := 0x20 ≤ b && b != 0x7F || b == 0x09

/-- Bytes that names consist of. -/
def inName (b : UInt8) : Bool :=
  let c := Char.ofNat b.toNat
  c.isAlphanum || "!#$%&'*+-.^_`|~".toList.contains c

def trim (bs : List UInt8) : List UInt8 :=
  ((bs.dropWhile isSpace).reverse.dropWhile isSpace).reverse

/-- A header: its name in small letters, and its value. -/
structure Header where
  name : String
  value : List UInt8
  deriving Repr, DecidableEq

def Header.ofLine? (line : List UInt8) : Option Header :=
  match line.span inName with
  | (b :: name, 0x3A :: value) =>
    if value.all inValue then some ⟨(Utf8.shown (b :: name)).toLower, trim value⟩ else none
  | _ => none

/-- The headers up to the empty line, and the body behind it. -/
def headers? : (steps : Nat) → List UInt8 → Option (List Header × List UInt8)
  | 0, _ => none
  | steps + 1, bs => do
    match ← line? bs with
    | ([], rest) => some ([], rest)
    | (line, rest) =>
      let header ← Header.ofLine? line
      let (headers, rest) ← headers? steps rest
      return (header :: headers, rest)

def value? (hs : List Header) (name : String) : Option String :=
  (hs.find? fun h => h.name == name).bind fun h => Utf8.text? h.value

def digit? (b : UInt8) : Option Nat := if 0x30 ≤ b && b ≤ 0x39 then some (b.toNat - 0x30) else none

/-- The status in the first line, a number of three digits. A reason may stand behind it. -/
def status? (line : List UInt8) : Option Nat :=
  match line.map fun b => Char.ofNat b.toNat with
  | 'H' :: 'T' :: 'T' :: 'P' :: '/' :: '1' :: '.' :: minor :: ' ' :: _ =>
    match line.drop 9 with
    | a :: b :: c :: reason => do
      let code := (← digit? a) * 100 + (← digit? b) * 10 + (← digit? c)
      let isGood := (reason.isEmpty || reason.head? == some 0x20) && reason.all inValue
      if isGood && (minor = '0' || minor = '1') && 100 ≤ code then some code else none
    | _ => none
  | _ => none

/-! ## Body -/

/-- A body, and whether some of it is missing. -/
structure Body where
  bytes : List UInt8
  isCut : Bool
  deriving Repr, DecidableEq

/-- The size of a chunk, in hexadecimal digits at the start of its line. -/
def chunkSize? (line : List UInt8) : Option Nat :=
  match ((Utf8.shown line).toList.takeWhile fun c => (Url.hexValue? c).isSome) with
  | [] => none
  | ds => Url.Host.digitsIn 16 ds

/-- Chunks up to an empty one. -/
def joinChunks : (steps : Nat) → List UInt8 → Body
  | 0, _ => ⟨[], true⟩
  | steps + 1, bs =>
    match line? bs with
    | none => ⟨[], true⟩
    | some (line, rest) =>
      match chunkSize? line with
      | none => ⟨[], true⟩
      | some 0 => ⟨[], false⟩
      | some n =>
        let behind := rest.drop n
        let later := joinChunks steps ((line? behind).map Prod.snd |>.getD [])
        ⟨rest.take n ++ later.bytes, later.isCut⟩

/-- The body, of all the bytes that came. -/
def body (hs : List Header) (bs : List UInt8) : Body :=
  if (value? hs "transfer-encoding").any fun v => v.toLower == "chunked" then
    joinChunks (bs.length + 1) bs
  else
    match (value? hs "content-length").bind String.toNat? with
    | some n => ⟨bs.take n, bs.length < n⟩
    | none => ⟨bs, false⟩

/-! ## Whole responses -/

/-- The response in the bytes that came back. Empty lines in front of it and responses that only
announce another one are passed over. -/
def response? : (steps : Nat) → List UInt8 → Option Response
  | 0, _ => none
  | steps + 1, bs => do
    match ← line? bs with
    | ([], rest) => response? steps rest
    | (first, rest) =>
      let status ← status? first
      let (hs, rest) ← headers? (rest.length + 1) rest
      if status < 200 ∧ status ≠ 101 then response? steps rest
      else
        let body := body hs rest
        return ⟨status, body.bytes, value? hs "location", body.isCut⟩

/-- What came back on a connection. Bytes that are no response are as good as none. -/
def reply (bs : List UInt8) : Reply :=
  match response? (bs.length + 1) bs with
  | some r => .answer r
  | none => .dropped

end Rollout.Message
