import Mathlib.Data.Rat.Floor
import Rollout.Event

/-!
The bar on a line. Between its brackets stand fifty cells: the filled ones and, unless these are
all, a head and blanks. What is filled is rounded down, so a bar is full at its total and not
before, and it never shrinks while the count grows (`bar_layout`). That is so if fifty times the
count is a word of 64 bits; a larger product loses bits where it is not looked at, and is a failure
where it is (`drawingInWords?_eq`).
-/

namespace Rollout

namespace Bar

variable {b b' : Bar}

/-! ## Filled cells -/

/-- The cells that a share of the total fills, rounded down, in numbers of any size. -/
def filled (b : Bar) : Nat :=
  if b.total ≤ 0 then 0 else b.clamped.toNat * cells / b.total.toNat

theorem filled_eq (h : 0 < b.total) : b.filled = b.clamped.toNat * cells / b.total.toNat :=
  if_neg (by omega)

theorem toNat_cells : cells.toUInt64.toNat = cells := by decide

/-- No bit is lost of a product that is a word. -/
theorem filledCells_eq (htotal : 0 < b.total) (hword : b.total.toNat < UInt64.size)
    (hsize : b.clamped.toNat * cells < UInt64.size) : b.filledCells = b.filled := by
  have hcells : 0 < cells := by decide
  have hclamped : b.clamped.toNat < UInt64.size :=
    Nat.lt_of_le_of_lt (Nat.le_mul_of_pos_right _ hcells) hsize
  rw [filled_eq htotal, filledCells, UInt64.toNat_div, UInt64.toNat_mul, toNat_cells,
    UInt64.toNat_ofNat_of_lt' hclamped, UInt64.toNat_ofNat_of_lt' hword, Nat.mod_eq_of_lt hsize]

theorem filled_le (b : Bar) : b.filled ≤ cells := by
  unfold filled
  split
  case isTrue => exact Nat.zero_le cells
  case isFalse =>
    have hshare : b.clamped.toNat ≤ b.total.toNat := by
      unfold clamped
      omega
    exact Nat.div_le_of_le_mul (Nat.mul_le_mul_right cells hshare)

/-- No share below the total is rounded up to a full bar. -/
theorem filled_eq_cells_iff (h : 0 < b.total) : b.filled = cells ↔ b.total ≤ b.current := by
  have htotal : 0 < b.total.toNat := by omega
  calc b.filled = cells
      ↔ cells ≤ b.filled := ⟨fun heq => heq.ge, fun hge => Nat.le_antisymm b.filled_le hge⟩
    _ ↔ b.total.toNat * cells ≤ b.clamped.toNat * cells := by
      rw [filled_eq h, Nat.le_div_iff_mul_le htotal, Nat.mul_comm]
    _ ↔ b.total.toNat ≤ b.clamped.toNat := Nat.mul_le_mul_right_iff (by decide)
    _ ↔ b.total ≤ b.current := by
      unfold clamped
      omega

theorem filled_mono (htotal : b.total = b'.total) (h : b.current ≤ b'.current) :
    b.filled ≤ b'.filled := by
  unfold filled
  rw [htotal]
  split
  case isTrue => exact Nat.le_refl 0
  case isFalse =>
    have hshare : b.clamped.toNat ≤ b'.clamped.toNat := by
      unfold clamped
      omega
    exact Nat.div_le_div_right (Nat.mul_le_mul_right cells hshare)

theorem filled_eq_floor (h : 0 < b.total) :
    (b.filled : ℤ) = ⌊(cells * b.clamped / b.total : ℚ)⌋ := by
  have hclamped : ((b.clamped.toNat : ℤ) : ℚ) = b.clamped :=
    congrArg Int.cast (Int.toNat_of_nonneg (Int.le_max_left ..))
  have htotal : ((b.total.toNat : ℤ) : ℚ) = b.total :=
    congrArg Int.cast (Int.toNat_of_nonneg h.le)
  rw [filled_eq h, Int.natCast_ediv, ← Rat.floor_natCast_div_natCast, ← hclamped, ← htotal,
    Nat.mul_comm, Nat.cast_mul, Int.cast_natCast, Int.cast_natCast]

/-! ## Cells -/

/-- Cells of which `k` are filled. A head stands behind these unless they are all. -/
def cellsWith (k : Nat) : List Char :=
  List.replicate k '=' ++ if k < cells then '>' :: List.replicate (cells - 1 - k) ' ' else []

theorem length_cellsWith {k : Nat} (h : k ≤ cells) : (cellsWith k).length = cells := by
  unfold cellsWith
  split
  case isTrue =>
    simp only [List.length_append, List.length_replicate, List.length_cons]
    omega
  case isFalse hfull =>
    rw [List.append_nil, List.length_replicate]
    omega

theorem cellsWith_eq_replicate_iff {k : Nat} (h : k ≤ cells) :
    cellsWith k = List.replicate cells '=' ↔ k = cells := by
  constructor
  · intro heq
    refine Nat.le_antisymm h (Nat.le_of_not_lt fun hlt => ?_)
    have hhead : '>' ∈ List.replicate cells '=' := by
      rw [← heq, cellsWith, if_pos hlt]
      exact List.mem_append_right _ List.mem_cons_self
    exact absurd (List.eq_of_mem_replicate hhead) (by decide)
  · rintro rfl
    rfl

theorem drawing_of_nonpos (h : b.total ≤ 0) : b.drawing = List.replicate cells ' ' := if_pos h

theorem drawing_of_pos (h : 0 < b.total) : b.drawing = cellsWith (min cells b.filledCells) := by
  rw [drawing, if_neg (by omega), cellsWith]
  split
  case isTrue hfull =>
    rw [Nat.min_eq_left hfull, if_neg (by omega), List.append_nil]
  case isFalse hpart =>
    rw [Nat.min_eq_right (by omega), if_pos (by omega), Nat.sub_right_comm]

theorem length_drawing (b : Bar) : b.drawing.length = cells := by
  by_cases h : 0 < b.total
  · rw [drawing_of_pos h, length_cellsWith (Nat.min_le_left ..)]
  · rw [drawing_of_nonpos (by omega), List.length_replicate]

theorem length_render (b : Bar) : b.render.length = cells + 2 := by
  have hbrackets : "[".length = 1 ∧ "]".length = 1 := ⟨rfl, rfl⟩
  simp only [render, String.length_append, String.length_ofList, length_drawing]
  omega

end Bar

/-! ## Words

Arithmetic in words of 64 bits. There is no result where a machine fails: above the largest word,
below zero, and in a division by zero. -/

namespace Word

def mul? (x y : UInt64) : Option UInt64 :=
  if x.toNat * y.toNat < UInt64.size then some (x * y) else none

def div? (x y : UInt64) : Option UInt64 := if y = 0 then none else some (x / y)

def sub? (x y : UInt64) : Option UInt64 := if y ≤ x then some (x - y) else none

/-- The word that is nearest to `x` from `low` to `high`. -/
def clamp (x low high : Int64) : Int64 := if x < low then low else if high < x then high else x

variable {x y : UInt64}

theorem mul?_eq (h : x.toNat * y.toNat < UInt64.size) :
    ∃ z, mul? x y = some z ∧ z.toNat = x.toNat * y.toNat :=
  ⟨x * y, if_pos h, by rw [UInt64.toNat_mul]; exact Nat.mod_eq_of_lt h⟩

theorem div?_eq (h : 0 < y.toNat) : ∃ z, div? x y = some z ∧ z.toNat = x.toNat / y.toNat := by
  refine ⟨x / y, if_neg ?_, UInt64.toNat_div x y⟩
  rintro rfl
  exact absurd h (by decide)

theorem sub?_eq (h : y.toNat ≤ x.toNat) : ∃ z, sub? x y = some z ∧ z.toNat = x.toNat - y.toNat :=
  have hle : y ≤ x := UInt64.le_iff_toNat_le.2 h
  ⟨x - y, if_pos hle, UInt64.toNat_sub_of_le x y hle⟩

theorem toInt_pos {x : Int64} : 0 < x.toInt ↔ 0 < x := by
  rw [Int64.lt_iff_toInt_lt, Int64.toInt_zero]

theorem toNat_toUInt64 {x : Int64} (h : 0 ≤ x.toInt) : x.toUInt64.toNat = x.toInt.toNat := by
  rw [← Int64.toInt_zero, ← Int64.le_iff_toInt_le] at h
  exact Int64.toNat_toUInt64_of_le h

theorem toInt_clamp (x : Int64) {high : Int64} (h : 0 < high) :
    (clamp x 0 high).toInt = max 0 (min x.toInt high.toInt) := by
  rw [← toInt_pos] at h
  simp only [clamp, Int64.lt_iff_toInt_lt, Int64.toInt_zero]
  split
  case isTrue => rw [Int64.toInt_zero]; omega
  case isFalse => split <;> omega

end Word

namespace Bar

/-- A bar whose counts are words. -/
def ofWords (current total : Int64) (hideCounts : Bool) : Bar :=
  ⟨current.toInt, total.toInt, hideCounts⟩

def filledInWords? (current total : Int64) : Option UInt64 := do
  let share ← Word.mul? (Word.clamp current 0 total).toUInt64 cells.toUInt64
  Word.div? share total.toUInt64

/-- The cells behind the filled ones and the head. -/
def blanksInWords? (filled : UInt64) : Option UInt64 := do
  let behind ← Word.sub? cells.toUInt64 filled
  Word.sub? behind 1

/-- The cells as a machine computes them, if no step of the calculation fails. -/
def drawingInWords? (current total : Int64) : Option (List Char) :=
  if total ≤ 0 then some (List.replicate cells ' ')
  else do
    let filled ← filledInWords? current total
    if cells.toUInt64 ≤ filled then return List.replicate cells '='
    else
      let blanks ← blanksInWords? filled
      return List.replicate filled.toNat '=' ++ '>' :: List.replicate blanks.toNat ' '

variable {current total : Int64} (hideCounts : Bool)

theorem toNat_clamp (h : 0 < total) :
    (Word.clamp current 0 total).toUInt64.toNat =
      (ofWords current total hideCounts).clamped.toNat := by
  have hclamp := Word.toInt_clamp current h
  have hnonneg : 0 ≤ (Word.clamp current 0 total).toInt := by
    rw [hclamp]
    exact Int.le_max_left ..
  rw [Word.toNat_toUInt64 hnonneg, hclamp]
  rfl

/-- Only the product may be too large: the total is not zero. -/
theorem filledInWords?_eq (h : 0 < total)
    (hsize : (ofWords current total hideCounts).clamped.toNat * cells < UInt64.size) :
    ∃ filled, filledInWords? current total = some filled ∧
      filled.toNat = (ofWords current total hideCounts).filled := by
  have hpos : 0 < total.toInt := Word.toInt_pos.2 h
  have hdivisor : total.toUInt64.toNat = total.toInt.toNat := Word.toNat_toUInt64 hpos.le
  rw [← toNat_clamp hideCounts h, ← toNat_cells] at hsize
  obtain ⟨share, hshare, hproduct⟩ := Word.mul?_eq hsize
  obtain ⟨filled, hfilled, hquotient⟩ :=
    Word.div?_eq (x := share) (y := total.toUInt64) (by omega)
  rw [hproduct, toNat_clamp hideCounts h, toNat_cells, hdivisor] at hquotient
  refine ⟨filled, ?_, hquotient.trans (filled_eq (b := ofWords ..) hpos).symm⟩
  rw [filledInWords?, hshare]
  exact hfilled

theorem filledInWords?_eq_none (h : 0 < total)
    (hsize : ¬ (ofWords current total hideCounts).clamped.toNat * cells < UInt64.size) :
    filledInWords? current total = none := by
  rw [← toNat_clamp hideCounts h, ← toNat_cells] at hsize
  have hnone : Word.mul? (Word.clamp current 0 total).toUInt64 cells.toUInt64 = none :=
    if_neg hsize
  rw [filledInWords?, hnone]
  rfl

theorem blanksInWords?_eq {filled : UInt64} (h : filled.toNat < cells) :
    ∃ blanks, blanksInWords? filled = some blanks ∧ blanks.toNat = cells - filled.toNat - 1 := by
  have hcells : filled.toNat ≤ cells.toUInt64.toNat := by
    rw [toNat_cells]
    exact h.le
  obtain ⟨behind, hbehind, hdifference⟩ := Word.sub?_eq hcells
  rw [toNat_cells] at hdifference
  have hhead : UInt64.toNat 1 ≤ behind.toNat := by
    rw [hdifference, UInt64.toNat_one]
    omega
  obtain ⟨blanks, hblanks, hrest⟩ := Word.sub?_eq hhead
  rw [hdifference, UInt64.toNat_one] at hrest
  refine ⟨blanks, ?_, hrest⟩
  rw [blanksInWords?, hbehind]
  exact hblanks

theorem filledCells_ofWords (h : 0 < total)
    (hsize : (ofWords current total hideCounts).clamped.toNat * cells < UInt64.size) :
    (ofWords current total hideCounts).filledCells = (ofWords current total hideCounts).filled := by
  have hpos : 0 < total.toInt := Word.toInt_pos.2 h
  refine filledCells_eq hpos ?_ hsize
  show total.toInt.toNat < UInt64.size
  rw [← Word.toNat_toUInt64 hpos.le]
  exact total.toUInt64.toNat_lt

/-- A machine draws the cells unless the product with their number is no word. -/
theorem drawingInWords?_eq (current total : Int64) :
    drawingInWords? current total =
      if (ofWords current total hideCounts).clamped.toNat * cells < UInt64.size then
        some (ofWords current total hideCounts).drawing
      else none := by
  by_cases h : 0 < total
  case neg =>
    have htotal : total.toInt ≤ 0 := by
      rw [← Word.toInt_pos] at h
      omega
    have hnone : (ofWords current total hideCounts).clamped.toNat = 0 := by
      simp only [clamped, ofWords]
      omega
    rw [hnone, Nat.zero_mul, drawingInWords?, if_pos (Int64.not_lt.1 h), if_pos (by decide),
      drawing_of_nonpos (b := ofWords ..) htotal]
  case pos =>
    have htotal : ¬ (ofWords current total hideCounts).total ≤ 0 :=
      Int.not_le.2 (Word.toInt_pos.2 h)
    rw [drawingInWords?, if_neg (Int64.not_le.2 h)]
    split
    case isFalse hsize =>
      rw [filledInWords?_eq_none hideCounts h hsize]
      rfl
    case isTrue hsize =>
      obtain ⟨filled, hfilled, hcount⟩ := filledInWords?_eq hideCounts h hsize
      rw [← filledCells_ofWords hideCounts h hsize] at hcount
      simp only [hfilled, Option.bind_eq_bind, Option.bind_some, UInt64.le_iff_toNat_le,
        toNat_cells, drawing, if_neg htotal, ← hcount]
      split
      case isTrue => rfl
      case isFalse hpart =>
        obtain ⟨blanks, hblanks, hrest⟩ := blanksInWords?_eq (Nat.lt_of_not_le hpart)
        rw [hblanks, ← hrest]
        rfl

/-- The least count for which a machine fails at the largest total. -/
example : drawingInWords? 368934881474191033 Int64.maxValue = none := by decide +kernel

end Bar

theorem Event.line_bar {e : Event} {b : Bar} (h : e.bar = some b) :
    e.line =
      (if e.id = "" then "" else e.id ++ ": ") ++ e.action ++ " " ++ b.render ++ b.counts := by
  rw [line, h]
  simp only [String.append_assoc]

/-- The bar on the line of an event, for counts that are words. It stands behind the action, as
fifty cells in brackets, and no step of its calculation in words fails. The cells are blank if there
is no total, and else filled by the share of the total, rounded down, so that all are filled from
the total on and not before. No filled cell is lost while the count grows. -/
theorem bar_layout {current total : Int64} {hideCounts : Bool}
    (hsize : (Bar.ofWords current total hideCounts).clamped * 50 < 2 ^ 64) :
    let b := Bar.ofWords current total hideCounts
    ∃ drawn : List Char,
      Bar.drawingInWords? current total = some drawn ∧
      drawn.length = 50 ∧ b.render = "[" ++ String.ofList drawn ++ "]" ∧ b.render.length = 52 ∧
      (∀ e : Event, e.bar = some b → e.line =
        (if e.id = "" then "" else e.id ++ ": ") ++ e.action ++ " " ++ b.render ++ b.counts) ∧
      (total ≤ 0 → drawn = List.replicate 50 ' ') ∧
      (0 < total →
        (b.filled : ℤ) = ⌊(50 * b.clamped / b.total : ℚ)⌋ ∧
        drawn = List.replicate b.filled '=' ++
          (if b.filled < 50 then '>' :: List.replicate (49 - b.filled) ' ' else []) ∧
        (drawn = List.replicate 50 '=' ↔ total ≤ current)) ∧
      ∀ next, current ≤ next → b.filled ≤ (Bar.ofWords next total hideCounts).filled := by
  have hfits : (Bar.ofWords current total hideCounts).clamped.toNat * Bar.cells < UInt64.size := by
    show _ * 50 < 18446744073709551616
    omega
  have hdrawn := Bar.drawingInWords?_eq hideCounts current total
  rw [if_pos hfits] at hdrawn
  intro b
  refine ⟨b.drawing, hdrawn, b.length_drawing, rfl, b.length_render, fun e => Event.line_bar,
    fun h => ?_, fun h => ?_, fun next hnext => ?_⟩
  · rw [← Int64.not_lt, ← Word.toInt_pos, Int.not_lt] at h
    exact Bar.drawing_of_nonpos h
  · have hpos : 0 < b.total := Word.toInt_pos.2 h
    have hcells : b.drawing = Bar.cellsWith b.filled := by
      rw [Bar.drawing_of_pos hpos, Bar.filledCells_ofWords hideCounts h hfits,
        Nat.min_eq_right b.filled_le]
    refine ⟨Bar.filled_eq_floor hpos, hcells, ?_⟩
    rw [hcells, Int64.le_iff_toInt_le]
    exact (Bar.cellsWith_eq_replicate_iff b.filled_le).trans (Bar.filled_eq_cells_iff hpos)
  · exact Bar.filled_mono rfl (Int64.le_iff_toInt_le.1 hnext)

/-- One cell of the largest total. Fifty times the count is only just a word, and not quite twice
the total. -/
theorem bar_layout_of_largest_total :
    let current : Int64 := 368934881474191032
    let total := Int64.maxValue
    let b := Bar.ofWords current total true
    b.clamped * 50 < 2 ^ 64 ∧ 0 < total ∧
      (b.filled : ℤ) = ⌊(50 * b.clamped / b.total : ℚ)⌋ ∧ b.filled = 1 ∧
      Bar.drawingInWords? current total = some ('=' :: '>' :: List.replicate 48 ' ') ∧
      (Event.mk "1/1" "running" (some b)).line = "1/1: running [=>".pushn ' ' 48 ++ "]" := by
  intro current total b
  have hsize : b.clamped * 50 < 2 ^ 64 := by decide
  have hpos : 0 < total := by decide
  have hfilled : b.filled = 1 := by decide
  obtain ⟨drawn, hdrawn, -, hrender, -, hline, -, hcells, -⟩ := bar_layout hsize
  obtain ⟨hfloor, hshape, -⟩ := hcells hpos
  rw [hfilled] at hshape
  subst hshape
  refine ⟨hsize, hpos, hfloor, hfilled, hdrawn, ?_⟩
  rw [hline ⟨"1/1", "running", some b⟩ rfl, hrender]
  decide +kernel

end Rollout
