import Rollout.Json.Printer

/-!
Progress lines. An event addresses a line by its id; events without an id are messages. An event
may carry a bar.
-/
namespace Rollout

structure Bar where
  current : Int
  total : Int
  hideCounts : Bool
  deriving Repr, DecidableEq

structure Event where
  id : String
  action : String
  bar : Option Bar
  deriving Repr, DecidableEq

namespace Event

def act (id action : String) : Event := ⟨id, action, none⟩

/-- An event with a bar that shows no numbers. -/
def withBar (id action : String) (current total : Int) : Event :=
  ⟨id, action, some ⟨current, total, true⟩⟩

def message (text : String) : Event := .act "" text

end Event

namespace Bar

/-- Cells between the brackets of a bar. -/
def cells : Nat := 50

/-- The count, brought between zero and the total. -/
def clamped (b : Bar) : Int := max 0 (min b.current b.total)

/-- The filled cells for a total: the share of it, rounded down. The product is taken in words of 64
bits and loses what does not fit. -/
def filledCells (b : Bar) : Nat :=
  (b.clamped.toNat.toUInt64 * cells.toUInt64 / b.total.toNat.toUInt64).toNat

/-- A head follows the filled cells, unless there is no total or no cell is left. -/
def drawing (b : Bar) : List Char :=
  if b.total ≤ 0 then List.replicate cells ' '
  else if cells ≤ b.filledCells then List.replicate cells '='
  else List.replicate b.filledCells '=' ++ '>' :: List.replicate (cells - b.filledCells - 1) ' '

def render (b : Bar) : String := "[" ++ String.ofList b.drawing ++ "]"

def counts (b : Bar) : String :=
  if b.hideCounts then "" else " " ++ toString b.current ++ "/" ++ toString b.total

end Bar

namespace Event

/-- The line that shows an event. -/
def line (e : Event) : String :=
  (if e.id = "" then "" else e.id ++ ": ") ++ e.action ++
    match e.bar with
    | none => ""
    | some b => " " ++ b.render ++ b.counts

open Json in
def print (e : Event) : List Char :=
  Print.object
    (Print.member "id" (Print.text e.id) :: Print.member "status" (Print.text e.action)
      :: Print.optional "progressDetail" (fun b : Bar =>
        Print.object
          [Print.member "current" (Print.integer b.current),
           Print.member "total" (Print.integer b.total),
           Print.member "hidecounts" (Print.flag b.hideCounts)]) e.bar)

/-- The JSON text of an event. -/
def json (e : Event) : String := String.ofList e.print

end Event
end Rollout
