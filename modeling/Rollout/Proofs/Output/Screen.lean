import Mathlib.Logic.Function.Basic
import Rollout.Output.Terminal

/-!
A screen without borders: rows of characters, with no last row and no last column, and a cursor.
Text is typed on it character by character; control sequences move the cursor or clear its row.
-/

namespace Rollout

/-- How far a control sequence was read. -/
inductive Screen.Input where
  | plain
  | escape
  | sequence (number : Nat)
  deriving DecidableEq

structure Screen where
  text : Nat → List Char
  row : Nat
  column : Nat
  input : Screen.Input

namespace Screen

def blank : Screen := ⟨fun _ => [], 0, 0, .plain⟩

/-- The control characters of Unicode. -/
def isControl (c : Char) : Bool :=
  decide (c.toNat < 0x20) || decide (0x7f ≤ c.toNat) && decide (c.toNat < 0xa0)

/-- A row with another character at a column, filled up with blanks as far as it has to be. -/
def overtyped (line : List Char) (column : Nat) (c : Char) : List Char :=
  line.take column ++ List.replicate (column - line.length) ' ' ++ c :: line.drop (column + 1)

def put (s : Screen) (c : Char) : Screen :=
  { s with
    text := Function.update s.text s.row (overtyped (s.text s.row) s.column c)
    column := s.column + 1 }

/-- What a control sequence does. A distance of zero counts as one. -/
def perform (s : Screen) (number : Nat) : Char → Screen
  | 'A' => { s with row := s.row - max 1 number }
  | 'B' => { s with row := s.row + max 1 number }
  | 'G' => { s with column := max 1 number - 1 }
  | 'K' => if number = 2 then { s with text := Function.update s.text s.row [] } else s
  | _ => s

def type (s : Screen) (c : Char) : Screen :=
  match s.input with
  | .plain =>
    if c = '\n' then { s with row := s.row + 1, column := 0 }
    else if c = '\x1b' then { s with input := .escape }
    else if isControl c then s
    else s.put c
  | .escape => { s with input := if c = '[' then .sequence 0 else .plain }
  | .sequence n =>
    if c.isDigit then { s with input := .sequence (10 * n + (c.toNat - '0'.toNat)) }
    else perform { s with input := .plain } n c

/-- Types texts one after another. -/
def typeAll (s : Screen) (texts : List String) : Screen :=
  texts.foldl (fun s text => text.toList.foldl type s) s

/-- What a text leaves on an empty screen. -/
def shown (text : String) : Screen := text.toList.foldl type blank

/-- These rows from the top, and nothing behind them. -/
def rows (lines : List (List Char)) (i : Nat) : List Char := lines[i]?.getD []

/-- A screen with nothing but these rows, and the cursor at the start of the row behind them. -/
def showing (lines : List (List Char)) : Screen := ⟨rows lines, lines.length, 0, .plain⟩

theorem typeAll_append (s : Screen) (a b : List String) :
    s.typeAll (a ++ b) = (s.typeAll a).typeAll b := List.foldl_append

theorem typeAll_cons (s : Screen) (text : String) (texts : List String) :
    s.typeAll (text :: texts) = (s.typeAll [text]).typeAll texts := rfl

theorem typeAll_join (s : Screen) (texts : List String) :
    (String.join texts).toList.foldl type s = s.typeAll texts := by
  induction texts generalizing s with
  | nil => rfl
  | cons text texts ih =>
    rw [String.join_cons, String.toList_append, List.foldl_append, ih, typeAll_cons]
    rfl

theorem shown_join (text : String) (texts : List String) :
    shown (text ++ String.join texts) = (shown text).typeAll texts := by
  rw [shown, String.toList_append, List.foldl_append, typeAll_join, ← shown]

/-! ## Text on a row -/

def Printable (line : List Char) : Prop := ∀ c ∈ line, isControl c = false

instance (line : List Char) : Decidable (Printable line) :=
  List.decidableBAll (fun c => isControl c = false) line

variable {s : Screen}

theorem overtyped_end (line : List Char) (c : Char) :
    overtyped line line.length c = line ++ [c] := by
  simp [overtyped]

theorem type_printable {c : Char} (hinput : s.input = .plain) (hc : isControl c = false) :
    s.type c = s.put c := by
  have hnewline : c ≠ '\n' := by
    rintro rfl
    exact absurd hc (by decide)
  have hescape : c ≠ '\x1b' := by
    rintro rfl
    exact absurd hc (by decide)
  simp only [type, hinput, if_neg hnewline, if_neg hescape, hc, Bool.false_eq_true, if_false]

/-- Printable text behind the end of a row is added to it. -/
theorem type_line {line : List Char} (hline : Printable line) (hinput : s.input = .plain)
    (hend : s.column = (s.text s.row).length) :
    line.foldl type s =
      { s with
        text := Function.update s.text s.row (s.text s.row ++ line)
        column := s.column + line.length } := by
  induction line generalizing s with
  | nil => simp
  | cons c line ih =>
    have hput : s.type c =
        { s with
          text := Function.update s.text s.row (s.text s.row ++ [c])
          column := s.column + 1 } := by
      rw [type_printable hinput (hline c (by simp)), put, hend, overtyped_end]
    have hrest : Printable line := fun d hd => hline d (by simp [hd])
    have hplain : (s.type c).input = .plain := by rw [hput, hinput]
    have hend' : (s.type c).column = ((s.type c).text (s.type c).row).length := by simp [hput, hend]
    rw [List.foldl_cons, ih hrest hplain hend', hput]
    simp only [Function.update_self, Function.update_idem, List.append_assoc,
      List.singleton_append, List.length_cons, Nat.add_assoc, Nat.add_comm 1]

/-! ## Control sequences -/

theorem type_digits (ds : List Char) (hds : ∀ d ∈ ds, d.isDigit = true) (n : Nat) :
    ds.foldl type { s with input := .sequence n } =
      { s with input := .sequence (Nat.ofDigitChars 10 ds n) } := by
  induction ds generalizing n with
  | nil => rfl
  | cons d ds ih =>
    have hd : type { s with input := .sequence n } d =
        { s with input := .sequence (10 * n + (d.toNat - '0'.toNat)) } := by
      simp only [type, hds d (by simp), if_true]
    rw [List.foldl_cons, hd, ih (fun x hx => hds x (by simp [hx]))]
    rfl

theorem typeAll_opening (hinput : s.input = .plain) :
    s.typeAll ["\x1b["] = { s with input := .sequence 0 } := by
  simp [typeAll, type, hinput]

theorem typeAll_number (hinput : s.input = .plain) (n : Nat) :
    s.typeAll ["\x1b[", toString n] = { s with input := .sequence n } := by
  have hdigits : ∀ d ∈ Nat.toDigits 10 n, d.isDigit = true :=
    fun d hd => Nat.isDigit_of_mem_toDigits (by decide) (by decide) hd
  have htext : (toString n).toList = Nat.toDigits 10 n := Nat.toList_repr
  rw [typeAll_cons, typeAll_opening hinput]
  show (toString n).toList.foldl type { s with input := .sequence 0 } = _
  rw [htext, type_digits _ hdigits, Nat.ofDigitChars_ten_toDigits]

/-- A control sequence with a number does what its last letter says. -/
theorem typeAll_sequence (hinput : s.input = .plain) (n : Nat) (final : String) {c : Char}
    (hfinal : final.toList = [c]) (hc : c.isDigit = false) :
    s.typeAll ["\x1b[", toString n, final] = s.perform n c := by
  have hplain : { s with input := .plain } = s := by rw [← hinput]
  show (s.typeAll ["\x1b[", toString n]).typeAll [final] = _
  rw [typeAll_number hinput]
  simp only [typeAll, List.foldl_cons, List.foldl_nil, hfinal, type, hc, Bool.false_eq_true,
    if_false, hplain]

theorem typeAll_up (hinput : s.input = .plain) (n : Nat) :
    s.typeAll (Terminal.up n) = { s with row := s.row - max 1 n } :=
  typeAll_sequence hinput n "A" rfl (by decide)

theorem typeAll_down (hinput : s.input = .plain) (n : Nat) :
    s.typeAll (Terminal.down n) = { s with row := s.row + max 1 n } :=
  typeAll_sequence hinput n "B" rfl (by decide)

theorem typeAll_firstColumn (hinput : s.input = .plain) :
    s.typeAll Terminal.firstColumn = { s with column := 0 } :=
  typeAll_sequence hinput 1 "G" rfl (by decide)

theorem typeAll_clearLine (hinput : s.input = .plain) :
    s.typeAll Terminal.clearLine = { s with text := Function.update s.text s.row [] } := by
  have hjoin : String.join Terminal.clearLine = String.join ["\x1b[", toString 2, "K"] := by
    decide
  rw [← typeAll_join, hjoin, typeAll_join]
  exact typeAll_sequence hinput 2 "K" rfl (by decide)

/-- The writes that put a line on a row further up leave the rest of the screen as it is, and the
cursor where it was. -/
theorem typeAll_overwriting {distance : Nat} {line : String} (hinput : s.input = .plain)
    (hcolumn : s.column = 0) (hpositive : 0 < distance) (hrow : distance ≤ s.row)
    (hline : Printable line.toList) :
    s.typeAll (Terminal.overwriting distance line) =
      { s with text := Function.update s.text (s.row - distance) line.toList } := by
  have hmove : max 1 distance = distance := by omega
  have hback : s.row - distance + distance = s.row := by omega
  let up : Screen := { s with row := s.row - distance, column := 0 }
  let cleared : Screen := { up with text := Function.update s.text up.row [] }
  let written : Screen :=
    { up with
      text := Function.update s.text up.row line.toList
      column := line.toList.length }
  have hup : (s.typeAll (Terminal.up distance)).typeAll Terminal.firstColumn = up := by
    rw [typeAll_up hinput, hmove]
    exact typeAll_firstColumn (s := { s with row := s.row - distance }) hinput
  have hcleared : up.typeAll Terminal.clearLine = cleared := typeAll_clearLine hinput
  have hwritten : cleared.typeAll [line] = written := by
    show line.toList.foldl type cleared = written
    rw [type_line (s := cleared) hline hinput (by simp [cleared, up])]
    simp only [cleared, written, up, Function.update_self, Function.update_idem, List.nil_append,
      Nat.zero_add]
  have hdown : (written.typeAll (Terminal.down distance)).typeAll Terminal.firstColumn =
      { written with row := s.row, column := 0 } := by
    rw [typeAll_down (s := written) hinput, hmove]
    simp only [written, up, hback]
    exact typeAll_firstColumn hinput
  simp only [Terminal.overwriting, typeAll_append]
  rw [hup, hcleared, hwritten, hdown]
  simp only [written, up, ← hcolumn]

/-! ## Screens that show lines -/

theorem rows_append (lines : List (List Char)) (line : List Char) :
    rows (lines ++ [line]) = Function.update (rows lines) lines.length line := by
  funext i
  rw [Function.update_apply]
  by_cases hi : i = lines.length
  · simp [rows, hi]
  · have hplace : i < lines.length ∨ lines.length + 1 ≤ i := by omega
    rw [if_neg hi]
    rcases hplace with hlt | hbehind
    · simp only [rows, List.getElem?_append_left hlt]
    · have hnone : lines[i]? = none := by simp; omega
      have hnone' : (lines ++ [line])[i]? = none := by simp; omega
      simp only [rows, hnone, hnone']

theorem rows_set {lines : List (List Char)} {row : Nat} (hrow : row < lines.length)
    (line : List Char) :
    rows (lines.set row line) = Function.update (rows lines) row line := by
  funext i
  rw [Function.update_apply]
  by_cases hi : i = row
  · simp [rows, hi, hrow]
  · simp [rows, hi, Ne.symm hi]

theorem typeAll_newline (hinput : s.input = .plain) :
    s.typeAll ["\n"] = { s with row := s.row + 1, column := 0 } := by
  simp [typeAll, type, hinput]

theorem typeAll_line {lines : List (List Char)} {line : String} (hline : Printable line.toList) :
    (showing lines).typeAll [line, "\n"] = showing (lines ++ [line.toList]) := by
  have hfree : rows lines lines.length = [] := by simp [rows]
  have hwritten : (showing lines).typeAll [line] =
      { showing lines with
        text := rows (lines ++ [line.toList])
        column := line.toList.length } := by
    show line.toList.foldl type (showing lines) = _
    rw [type_line (s := showing lines) hline rfl (by simp [showing, hfree])]
    simp only [showing, hfree, rows_append, List.nil_append, Nat.zero_add]
  rw [typeAll_cons, hwritten, typeAll_newline rfl]
  simp [showing]

theorem typeAll_overwrite {lines : List (List Char)} {line : String}
    (hline : Printable line.toList) {row : Nat} (hrow : row < lines.length) :
    (showing lines).typeAll (Terminal.overwriting (lines.length - row) line) =
      showing (lines.set row line.toList) := by
  have hback : lines.length - (lines.length - row) = row := by omega
  rw [typeAll_overwriting (s := showing lines) rfl rfl (by omega) (by exact Nat.sub_le _ _) hline]
  simp only [showing, hback, rows_set hrow, List.length_set]

end Screen
end Rollout
