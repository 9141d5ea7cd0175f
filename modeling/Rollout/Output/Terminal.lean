import Rollout.Output

/-!
Lines on a terminal. On a screen every id has a row of its own: its first event appends a line and
each later one replaces that line. Elsewhere all events are appended. Between events the cursor
stands at the start of the row behind the last line.
-/
namespace Rollout

structure Terminal where
  device : Device
  isScreen : Bool
  width : Option Nat
  rows : List (String × Nat)
  lines : Nat
  deriving Repr, DecidableEq

namespace Terminal

def start (device : Device) (isScreen : Bool) (width : Option Nat) : Terminal :=
  ⟨device, isScreen, width, [], 0⟩

def row? (t : Terminal) (id : String) : Option Nat := t.rows.lookup id

/-- Control sequences, by the writes that they take. A number goes out by itself. -/
def up (n : Nat) : List String := ["\x1b[", toString n, "A"]
def down (n : Nat) : List String := ["\x1b[", toString n, "B"]
def firstColumn : List String := ["\x1b[", toString 1, "G"]
def clearLine : List String := ["\x1b[2K"]

/-- The longest distance that a cursor moves. -/
def maxMove : Nat := 65535

/-- Lines are cut to the width of the screen. A width of zero is none. -/
def fit (t : Terminal) (line : String) : String :=
  match t.width with
  | some n => if 0 < n then String.ofList (line.toList.take n) else line
  | none => line

def writeAll (t : Terminal) (texts : List String) : Except OutputError Unit × Terminal :=
  let (result, device) := t.device.writeAll texts
  (result, { t with device })

def flush (t : Terminal) : Except OutputError Unit × Terminal :=
  let (result, device) := t.device.flush
  (result, { t with device })

/-- Adds a line at the end. It counts once its newline is written. -/
def append (t : Terminal) (line : String) : Except OutputError Unit × Terminal :=
  match t.writeAll [line, "\n"] with
  | (.ok (), t) => (.ok (), { t with lines := t.lines + 1 })
  | (.error e, t) => (.error e, t)

/-- The writes that go up to a row, put a line there, and come back. -/
def overwriting (distance : Nat) (line : String) : List String :=
  up distance ++ firstColumn ++ clearLine ++ [line] ++ down distance ++ firstColumn

def overwrite (t : Terminal) (row : Nat) (line : String) : Except OutputError Unit × Terminal :=
  t.writeAll (overwriting (min (t.lines - row) maxMove) line)

/-- Shows an event on the row of its id. A new id gets its row before the line is written. -/
def place (t : Terminal) (id line : String) : Except OutputError Unit × Terminal :=
  match t.row? id with
  | some row => t.overwrite row line
  | none => append { t with rows := (id, t.lines) :: t.rows } line

def emit (t : Terminal) (e : Event) : Except OutputError Unit × Terminal :=
  if !t.isScreen then t.append e.line
  else if e.id = "" then t.append (t.fit e.line)
  else
    match t.place e.id (t.fit e.line) with
    | (.ok (), t) => t.flush
    | (.error e, t) => (.error e, t)

end Terminal

def Output.terminal : Output Terminal := ⟨Terminal.emit, Terminal.flush, id⟩

end Rollout
