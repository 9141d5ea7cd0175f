import Mathlib.Tactic.IntervalCases
import Rollout.Proofs.Output.Screen

/-!
Where the cursor stands when only the first of the writes were taken that show an event. A control
sequence that is broken off leaves its beginning to what is written next, and a line that is put on
a row further up leaves the cursor there as long as the way back was not taken.
-/

namespace Rollout.Screen

variable {s : Screen} {line final : String} {c : Char} {distance k n row : Nat}

/-- The cursor waits at the start of a row. -/
structure Rests (s : Screen) (row : Nat) : Prop where
  input : s.input = .plain
  row : s.row = row
  column : s.column = 0

instance (s : Screen) (row : Nat) : Decidable (s.Rests row) :=
  decidable_of_iff (s.input = .plain ∧ s.row = row ∧ s.column = 0)
    ⟨fun ⟨hinput, hrow, hcolumn⟩ => ⟨hinput, hrow, hcolumn⟩,
      fun ⟨hinput, hrow, hcolumn⟩ => ⟨hinput, hrow, hcolumn⟩⟩

/-! ## Parts of a control sequence -/

theorem row_take_sequence (hinput : s.input = .plain) (hk : k < 3) :
    (s.typeAll (["\x1b[", toString n, final].take k)).row = s.row := by
  interval_cases k
  · rfl
  · show (s.typeAll ["\x1b["]).row = _
    rw [typeAll_opening hinput]
  · show (s.typeAll ["\x1b[", toString n]).row = _
    rw [typeAll_number hinput]

/-- A control sequence that is broken off is still read on. -/
theorem input_take_sequence (hinput : s.input = .plain) (hpos : 0 < k) (hk : k < 3) :
    (s.typeAll (["\x1b[", toString n, final].take k)).input ≠ .plain := by
  interval_cases k
  · show (s.typeAll ["\x1b["]).input ≠ _
    rw [typeAll_opening hinput]
    exact nofun
  · show (s.typeAll ["\x1b[", toString n]).input ≠ _
    rw [typeAll_number hinput]
    exact nofun

/-! ## Lines -/

/-- The cursor behind printable text. -/
theorem typeAll_printable (hinput : s.input = .plain) (hline : Printable line.toList) :
    (s.typeAll [line]).input = .plain ∧ (s.typeAll [line]).row = s.row ∧
      (s.typeAll [line]).column = s.column + line.length := by
  show (line.toList.foldl type s).input = _ ∧ (line.toList.foldl type s).row = _ ∧
    (line.toList.foldl type s).column = _ + line.length
  rw [← String.length_toList]
  generalize line.toList = text at hline
  induction text generalizing s with
  | nil => exact ⟨hinput, rfl, rfl⟩
  | cons c text ih =>
    have hput : s.type c = s.put c := type_printable hinput (hline c (by simp))
    obtain ⟨hplain, hrow, hcolumn⟩ :=
      ih (s := s.put c) hinput fun d hd => hline d (by simp [hd])
    rw [List.foldl_cons, hput]
    refine ⟨hplain, hrow, hcolumn.trans ?_⟩
    rw [List.length_cons, put, Nat.add_assoc, Nat.add_comm 1]

theorem Rests.take_line (hrests : s.Rests row) (hline : Printable line.toList) (hk : k ≠ 1) :
    (s.typeAll ([line, "\n"].take k)).Rests (if 2 ≤ k then row + 1 else row) := by
  obtain ⟨hplain, hrow, -⟩ := typeAll_printable hrests.input hline
  match k with
  | 0 => exact hrests
  | k + 2 =>
    rw [if_pos (by omega), List.take_of_length_le (by simp), typeAll_cons, typeAll_newline hplain]
    exact ⟨hplain, congrArg (· + 1) (hrow.trans hrests.row), rfl⟩

/-- A cursor that waits does so again unless the newline alone was refused. -/
theorem rests_take_line_iff (hrests : s.Rests row) (hline : Printable line.toList)
    (hne : line ≠ "") (k : Nat) :
    (s.typeAll ([line, "\n"].take k)).Rests (if 2 ≤ k then row + 1 else row) ↔ k ≠ 1 := by
  refine ⟨?_, hrests.take_line hline⟩
  rintro h rfl
  obtain ⟨-, -, hcolumn⟩ := typeAll_printable hrests.input hline
  have hzero : s.column + line.length = 0 := hcolumn.symm.trans h.column
  exact hne (String.length_eq_zero_iff.1 (by omega))

/-! ## Lines further up -/

/-- Texts that leave the cursor on its row, also if only the first of them are written. -/
structure Still (texts : List String) : Prop where
  row : ∀ s : Screen, s.input = .plain → ∀ k, (s.typeAll (texts.take k)).row = s.row
  input : ∀ s : Screen, s.input = .plain → (s.typeAll texts).input = .plain

theorem Still.row_all {texts : List String} (h : Still texts) (hinput : s.input = .plain) :
    (s.typeAll texts).row = s.row := by
  have hrow := h.row s hinput texts.length
  rwa [List.take_length] at hrow

theorem typeAll_take_append (s : Screen) (a b : List String) (k : Nat) :
    s.typeAll ((a ++ b).take k) = (s.typeAll (a.take k)).typeAll (b.take (k - a.length)) := by
  rw [List.take_append, typeAll_append]

theorem Still.append {a b : List String} (ha : Still a) (hb : Still b) : Still (a ++ b) where
  row s hinput k := by
    rw [typeAll_take_append]
    rcases Nat.lt_or_ge k a.length with hk | hk
    · rw [Nat.sub_eq_zero_of_le hk.le]
      exact ha.row s hinput k
    · rw [List.take_of_length_le hk, hb.row _ (ha.input s hinput), ha.row_all hinput]
  input s hinput := by
    rw [typeAll_append]
    exact hb.input _ (ha.input s hinput)

theorem still_firstColumn : Still Terminal.firstColumn where
  row s hinput k := by
    rcases Nat.lt_or_ge k 3 with hk | hk
    · exact row_take_sequence hinput hk
    · rw [List.take_of_length_le hk, typeAll_firstColumn hinput]
  input s hinput := (congrArg Screen.input (typeAll_firstColumn hinput)).trans hinput

theorem still_single {text : String}
    (hrow : ∀ s : Screen, s.input = .plain → (s.typeAll [text]).row = s.row)
    (hplain : ∀ s : Screen, s.input = .plain → (s.typeAll [text]).input = .plain) :
    Still [text] where
  row s hinput k := by
    cases k with
    | zero => rfl
    | succ k =>
      rw [List.take_of_length_le (by simp)]
      exact hrow s hinput
  input := hplain

theorem still_clearLine : Still Terminal.clearLine := by
  refine still_single (fun s hinput => ?_) fun s hinput => ?_
  · show (s.typeAll Terminal.clearLine).row = _
    rw [typeAll_clearLine hinput]
  · show (s.typeAll Terminal.clearLine).input = _
    rw [typeAll_clearLine hinput]
    exact hinput

theorem still_line (hline : Printable line.toList) : Still [line] :=
  still_single (fun _ hinput => (typeAll_printable hinput hline).2.1)
    fun _ hinput => (typeAll_printable hinput hline).1

/-- The writes on the row that is reached. -/
def relining (line : String) : List String :=
  Terminal.firstColumn ++ Terminal.clearLine ++ [line]

theorem still_relining (hline : Printable line.toList) : Still (relining line) :=
  (still_firstColumn.append still_clearLine).append (still_line hline)

theorem column_relining (hinput : s.input = .plain) (hline : Printable line.toList) :
    (s.typeAll (relining line)).column = line.length := by
  have hfirst := still_firstColumn.input s hinput
  have hclear := still_clearLine.input _ hfirst
  rw [relining, typeAll_append, typeAll_append, (typeAll_printable hclear hline).2.2,
    typeAll_clearLine hfirst, typeAll_firstColumn hinput, Nat.zero_add]

theorem overwriting_eq (distance : Nat) (line : String) : Terminal.overwriting distance line =
    Terminal.up distance ++ (relining line ++
      (Terminal.down distance ++ Terminal.firstColumn)) := by
  simp only [Terminal.overwriting, relining, List.append_assoc]

/-- The writes that go up. -/
theorem typeAll_take_up (s : Screen) (hk : k ≤ 3) :
    s.typeAll ((Terminal.overwriting distance line).take k) =
      s.typeAll ((Terminal.up distance).take k) := by
  have hpart : k ≤ (Terminal.up distance).length := hk
  rw [overwriting_eq, List.take_append_of_le_length hpart]

/-- The writes behind those that go up, from the screen that these leave. -/
theorem typeAll_take_behind_up (hinput : s.input = .plain) (hk : 3 ≤ k) :
    s.typeAll ((Terminal.overwriting distance line).take k) =
      { s with row := s.row - max 1 distance }.typeAll ((relining line ++
        (Terminal.down distance ++ Terminal.firstColumn)).take (k - 3)) := by
  rw [overwriting_eq, typeAll_take_append, List.take_of_length_le hk, typeAll_up hinput]
  rfl

/-- The writes on the way back, from the screen on which the line stands. -/
theorem typeAll_take_behind_line (hinput : s.input = .plain) (hk : 8 ≤ k) :
    s.typeAll ((Terminal.overwriting distance line).take k) =
      ({ s with row := s.row - max 1 distance }.typeAll (relining line)).typeAll
        ((Terminal.down distance ++ Terminal.firstColumn).take (k - 8)) := by
  have hfive : (relining line).length ≤ k - 3 := by
    show 5 ≤ k - 3
    omega
  rw [typeAll_take_behind_up hinput (by omega), typeAll_take_append,
    List.take_of_length_le hfive, Nat.sub_sub]
  rfl

/-- The screen before the cursor goes back to the first column. -/
def returned (s : Screen) (distance : Nat) (line : String) : Screen :=
  ({ s with row := s.row - max 1 distance }.typeAll (relining line)).typeAll
    (Terminal.down distance)

theorem typeAll_take_behind_down (hinput : s.input = .plain) (hk : 11 ≤ k) :
    s.typeAll ((Terminal.overwriting distance line).take k) =
      (s.returned distance line).typeAll (Terminal.firstColumn.take (k - 11)) := by
  have hthree : (Terminal.down distance).length ≤ k - 8 := by
    show 3 ≤ k - 8
    omega
  rw [typeAll_take_behind_line hinput (by omega), typeAll_take_append,
    List.take_of_length_le hthree, Nat.sub_sub]
  rfl

theorem returned_spec (distance : Nat) (hinput : s.input = .plain) (hline : Printable line.toList) :
    (s.returned distance line).input = .plain ∧
      (s.returned distance line).row = s.row - max 1 distance + max 1 distance ∧
      (s.returned distance line).column = line.length := by
  let above : Screen := { s with row := s.row - max 1 distance }
  have habove : above.input = .plain := hinput
  have hplain := (still_relining hline).input above habove
  have hdown : s.returned distance line =
      { above.typeAll (relining line) with
        row := (above.typeAll (relining line)).row + max 1 distance } :=
    typeAll_down hplain distance
  rw [hdown, (still_relining hline).row_all habove]
  exact ⟨hplain, rfl, column_relining habove hline⟩

/-- Which row the cursor is on if only the first of the writes were taken that put a line on a row
further up: it goes there with the third one and comes back with the eleventh. -/
theorem row_take_overwriting (distance : Nat) (hinput : s.input = .plain)
    (hline : Printable line.toList) (k : Nat) :
    (s.typeAll ((Terminal.overwriting distance line).take k)).row =
      if 11 ≤ k then s.row - max 1 distance + max 1 distance
      else if 3 ≤ k then s.row - max 1 distance else s.row := by
  let above : Screen := { s with row := s.row - max 1 distance }
  have habove : above.input = .plain := hinput
  have hstill := still_relining hline
  split
  case isTrue hdown =>
    obtain ⟨hplain, hrow, -⟩ := returned_spec distance hinput hline
    rw [typeAll_take_behind_down hinput hdown, still_firstColumn.row _ hplain, hrow]
  case isFalse hdown =>
    split
    case isTrue hup =>
      rcases Nat.lt_or_ge k 8 with hk | hk
      · have hpart : k - 3 ≤ (relining line).length := by
          show k - 3 ≤ 5
          omega
        rw [typeAll_take_behind_up hinput hup, List.take_append_of_le_length hpart]
        exact hstill.row above habove (k - 3)
      · have hpart : k - 8 ≤ (Terminal.down distance).length := by
          show k - 8 ≤ 3
          omega
        rw [typeAll_take_behind_line hinput hk, List.take_append_of_le_length hpart]
        exact (row_take_sequence (hstill.input above habove) (by omega)).trans
          (hstill.row_all habove)
    case isFalse hup =>
      rw [typeAll_take_up s (by omega)]
      exact row_take_sequence hinput (by omega)

/-- What is written first of a move up is still read on. -/
theorem input_take_up (hinput : s.input = .plain) (hpos : 0 < k) (hk : k < 3) :
    (s.typeAll ((Terminal.overwriting distance line).take k)).input ≠ .plain := by
  rw [typeAll_take_up s hk.le]
  exact input_take_sequence hinput hpos hk

theorem Rests.take_overwriting (hrests : s.Rests row) (hline : Printable line.toList)
    (hdistance : max 1 distance ≤ row) (hk : k = 0 ∨ 14 ≤ k) :
    (s.typeAll ((Terminal.overwriting distance line).take k)).Rests row := by
  obtain ⟨hplain, hback, -⟩ := returned_spec distance hrests.input hline
  rcases hk with rfl | hk
  · exact hrests
  · have hthree : Terminal.firstColumn.length ≤ k - 11 := by
      show 3 ≤ k - 11
      omega
    rw [typeAll_take_behind_down hrests.input (by omega), List.take_of_length_le hthree,
      typeAll_firstColumn hplain]
    refine ⟨hplain, hback.trans ?_, rfl⟩
    rw [hrests.row]
    omega

/-- A cursor that waits does so again if all the writes were taken, or none, and not otherwise. -/
theorem rests_take_overwriting_iff (hrests : s.Rests row) (hline : Printable line.toList)
    (hne : line ≠ "") (hdistance : max 1 distance ≤ row) (k : Nat) :
    (s.typeAll ((Terminal.overwriting distance line).take k)).Rests row ↔ k = 0 ∨ 14 ≤ k := by
  refine ⟨fun h => ?_, hrests.take_overwriting hline hdistance⟩
  have hinput := hrests.input
  obtain ⟨hplain, -, hcolumn⟩ := returned_spec distance hinput hline
  by_contra hpart
  rcases Nat.lt_or_ge k 11 with hk | hk
  · rcases Nat.lt_or_ge k 3 with hup | hup
    · exact input_take_up hinput (by omega) hup h.input
    · have hrow := row_take_overwriting distance hinput hline k
      rw [h.row, if_neg (by omega), if_pos hup, hrests.row] at hrow
      omega
  · rw [typeAll_take_behind_down hinput hk] at h
    rcases Nat.eq_or_lt_of_le hk with rfl | hk
    · exact hne (String.length_eq_zero_iff.1 (hcolumn.symm.trans h.column))
    · exact input_take_sequence hplain (by omega) (by omega) h.input

end Rollout.Screen
