/-!
Labels with letters beyond ASCII, written in ASCII. The ASCII letters come first; behind a dash
follows one number for each other letter, from the least letter to the greatest. The numbers walk
through all pairs of a letter and a position, and each tells how many pairs to pass over before the
next letter is put in. Their digits have weights that adapt to the size of the numbers before.
-/
namespace Rollout.Url.Punycode

def digit (d : Nat) : Char := Char.ofNat (if d < 26 then d + 0x61 else d - 26 + 0x30)

def digitValue? (c : Char) : Option Nat := (List.range 36).find? fun d => digit d == c

/-- A digit below the threshold of its place is the last one of a number. Places are 36 apart. -/
def threshold (bias place : Nat) : Nat := min 26 (max 1 (place - bias))

/-- The bias that suits numbers of a size. -/
def biasFor (size : Nat) : Nat :=
  if 455 < size then 36 + biasFor (size / 35) else 36 * size / (size + 38)
termination_by size
decreasing_by exact Nat.div_lt_self (by omega) (by decide)

/-- The bias behind a number. The first number is far larger than the ones behind it. -/
def nextBias (number count : Nat) (first : Bool) : Nat :=
  let size := number / (if first then 700 else 2)
  biasFor (size + size / count)

def firstBias : Nat := 72

def firstLetter : Nat := 0x80

def isExtra (c : Char) : Bool := firstLetter ≤ c.toNat

/-! ## Writing -/

theorem threshold_pos (bias place : Nat) : 0 < threshold bias place := by
  unfold threshold; omega

/-- The digits of a number, the lowest first. -/
def digitsOf (bias place n : Nat) : List Char :=
  let t := threshold bias place
  if n < t then [digit n]
  else digit (t + (n - t) % (36 - t)) :: digitsOf bias (place + 36) ((n - t) / (36 - t))
termination_by n
decreasing_by
  have ht := threshold_pos bias place
  exact Nat.lt_of_le_of_lt (Nat.div_le_self _ _) (by omega)

/-- The letters beyond ASCII with their positions, in the order in which they are put in. -/
def extras (label : List Char) : List (Char × Nat) :=
  (label.zipIdx.filter fun p => isExtra p.1).mergeSort fun a b =>
    a.1 < b.1 || (a.1 == b.1 && a.2 ≤ b.2)

/-- Puts letters in. `placed` are the positions that are filled, `letter` and `position` the pair
at which the walk stands. -/
def writeExtras (bias letter position : Nat) (first : Bool) (placed : List Nat) :
    List (Char × Nat) → List Char
  | [] => []
  | (c, i) :: rest =>
    let count := placed.length + 1
    let target := placed.countP (· < i)
    let number := (c.toNat - letter) * count + target - position
    digitsOf bias 36 number ++
      writeExtras (nextBias number count first) c.toNat (target + 1) false (i :: placed) rest

def encode (label : List Char) : List Char :=
  let plain := label.filter fun c => !isExtra c
  let placed := (label.zipIdx.filter fun p => !isExtra p.1).map Prod.snd
  plain ++ (if plain.isEmpty then [] else ['-'])
    ++ writeExtras firstBias firstLetter 0 true placed (extras label)

/-! ## Reading -/

/-- A label being read: its letters so far, the pair at which the walk stands, and the number of
which some digits were read. -/
structure Draft where
  letters : List Char
  letter : Nat
  position : Nat
  bias : Nat
  place : Nat
  weight : Nat
  number : Nat

def isScalar (n : Nat) : Bool := n < 0xD800 || (0xDFFF < n && n < 0x110000)

/-- Passes over as many pairs as the number says, and puts a letter in. -/
def Draft.insert? (d : Draft) (number : Nat) : Option Draft :=
  let count := d.letters.length + 1
  let passed := d.position + number
  let letter := d.letter + passed / count
  let position := passed % count
  if isScalar letter then
    some ⟨d.letters.insertIdx position (Char.ofNat letter), letter, position + 1,
      nextBias number count (d.position = 0), 36, 1, 0⟩
  else none

/-- Numbers and weights are smaller than this. -/
def limit : Nat := Nat.pow 2 32

def Draft.push? (d : Draft) (c : Char) : Option Draft := do
  let value ← digitValue? c
  let t := threshold d.bias d.place
  let number := d.number + value * d.weight
  let weight := d.weight * (36 - t)
  if limit ≤ d.position + number then none
  else if value < t then d.insert? number
  else if limit ≤ weight then none
  else some { d with place := d.place + 36, weight, number }

/-- The ASCII letters, and the numbers behind the last dash. A dash in front of which there is no
letter belongs to the numbers, where no dash can be read. -/
def split (text : List Char) : List Char × List Char :=
  let numbers := (text.reverse.takeWhile (· != '-')).reverse
  if text == '-' :: numbers then ([], text)
  else (text.take (text.length - numbers.length - 1), numbers)

def decode? (text : List Char) : Option (List Char) :=
  let (plain, numbers) := split text
  match numbers.foldlM Draft.push? ⟨plain, firstLetter, 0, firstBias, 36, 1, 0⟩ with
  | some d => if d.place = 36 then some d.letters else none
  | none => none

end Rollout.Url.Punycode
