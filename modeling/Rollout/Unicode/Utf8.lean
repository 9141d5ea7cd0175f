/-!
Text in bytes. Bytes that spell no character come in runs: a run ends where the next byte cannot
continue the character that it began.
-/
namespace Rollout.Utf8

/-- A character, or a run of bytes that spells none. -/
inductive Piece where
  | char (c : Char)
  | broken (length : Nat)
  deriving Repr, DecidableEq

/-- A character of which some bytes are missing. -/
structure Begun where
  value : Nat
  used : Nat
  owed : Nat
  low : UInt8
  high : UInt8
  deriving Repr, DecidableEq

/-- What a first byte leads to. -/
inductive Start where
  | char (c : Char)
  | begun (p : Begun)
  | broken
  deriving Repr, DecidableEq

/-- The first byte tells how many follow. It narrows the second one where a longer spelling, a
surrogate or a number past the last character would come out. -/
def start (b : UInt8) : Start :=
  let n := b.toNat
  if b ≤ 0x7F then .char (Char.ofNat n)
  else if 0xC2 ≤ b && b ≤ 0xDF then .begun ⟨n - 0xC0, 1, 1, 0x80, 0xBF⟩
  else if b == 0xE0 then .begun ⟨0, 1, 2, 0xA0, 0xBF⟩
  else if b == 0xED then .begun ⟨0xD, 1, 2, 0x80, 0x9F⟩
  else if 0xE1 ≤ b && b ≤ 0xEF then .begun ⟨n - 0xE0, 1, 2, 0x80, 0xBF⟩
  else if b == 0xF0 then .begun ⟨0, 1, 3, 0x90, 0xBF⟩
  else if b == 0xF4 then .begun ⟨4, 1, 3, 0x80, 0x8F⟩
  else if 0xF1 ≤ b && b ≤ 0xF3 then .begun ⟨n - 0xF0, 1, 3, 0x80, 0xBF⟩
  else .broken

/-- The character with one more of its bytes. -/
def Begun.push (p : Begun) (b : UInt8) : Begun :=
  ⟨p.value * 64 + (b.toNat - 0x80), p.used + 1, p.owed - 1, 0x80, 0xBF⟩

/-- The pieces of a text of which a character may have begun. -/
def piecesFrom : Option Begun → List UInt8 → List Piece
  | none, [] => []
  | some p, [] => [.broken p.used]
  | none, b :: bs =>
    match start b with
    | .char c => .char c :: piecesFrom none bs
    | .begun p => piecesFrom (some p) bs
    | .broken => .broken 1 :: piecesFrom none bs
  | some p, b :: bs =>
    if p.low ≤ b && b ≤ p.high then
      if p.owed = 1 then .char (Char.ofNat (p.push b).value) :: piecesFrom none bs
      else piecesFrom (some (p.push b)) bs
    else
      .broken p.used ::
        match start b with
        | .char c => .char c :: piecesFrom none bs
        | .begun q => piecesFrom (some q) bs
        | .broken => .broken 1 :: piecesFrom none bs

def pieces (bs : List UInt8) : List Piece := piecesFrom none bs

/-- One scalar a character and one empty scalar a byte that belongs to none. -/
def Piece.scalars : Piece → List (Option Char)
  | .char c => [some c]
  | .broken n => List.replicate n none

def scalars (bs : List UInt8) : List (Option Char) := (pieces bs).flatMap Piece.scalars

/-- A run that spells nothing is shown as one replacement character. -/
def Piece.shown : Piece → Char
  | .char c => c
  | .broken _ => '\uFFFD'

def shown (bs : List UInt8) : String := String.ofList ((pieces bs).map Piece.shown)

def Piece.char? : Piece → Option Char
  | .char c => some c
  | .broken _ => none

/-- The text, if every byte belongs to a character. -/
def text? (bs : List UInt8) : Option String := ((pieces bs).mapM Piece.char?).map String.ofList

end Rollout.Utf8
