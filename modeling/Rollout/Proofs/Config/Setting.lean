import Rollout.Config.Load

/-!
Settings as they are written in variables and flags, apart from the functions that read them: a mode
by its name in any case (`OutputMode.Names`), a number by its decimal digits (`Config.Spells`).
-/

namespace Rollout

/-! ## Modes -/

/-- A text names a mode, in capital letters or small ones. -/
def OutputMode.Names (s : String) : OutputMode → Prop
  | .terminal => s.toLower = "terminal"
  | .json => s.toLower = "json"
  | .quiet => s.toLower = "quiet"

theorem OutputMode.names_iff {s : String} {m : OutputMode} : Names s m ↔ m.name = s.toLower := by
  cases m <;> exact eq_comm

theorem OutputMode.ofText?_eq_some {s : String} {m : OutputMode} :
    ofText? s = some m ↔ Names s m := by
  rw [names_iff]
  constructor
  · intro h
    rw [ofText?] at h
    simpa using List.find?_some h
  · intro h
    rw [ofText?, ← h]
    cases m <;> decide

/-! ## Numbers -/

namespace Config

open Json

/-- A text spells a number: in decimal digits, perhaps behind a plus sign, and in 64 bits. -/
inductive Spells (s : String) (n : Nat) : Prop
  | mk {ds : List Char} (hsign : s.toList = ds ∨ s.toList = '+' :: ds) (hsome : ds ≠ [])
      (hdigits : ∀ d ∈ ds, d.isDigit = true) (hvalue : Nat.ofDigitChars 10 ds 0 = n)
      (hfits : n < UInt64.size)

theorem isDigit_eq (c : Char) : Json.isDigit c = c.isDigit := rfl

theorem foldl_digits (ds : List Char) (n : Nat) :
    ds.foldl (fun n d => n * 10 + digitValue d) n = Nat.ofDigitChars 10 ds n := by
  induction ds generalizing n with
  | nil => rfl
  | cons d ds ih =>
    rw [List.foldl_cons, ih, Nat.ofDigitChars_cons, digitValue, Nat.mul_comm n 10]

theorem unsigned_spec (cs : List Char) : cs = unsigned cs ∨ cs = '+' :: unsigned cs := by
  unfold unsigned
  split
  · exact .inr rfl
  · exact .inl rfl

/-- Digits have no sign to lose. -/
theorem unsigned_digits {cs ds : List Char} (hdigits : ∀ d ∈ ds, d.isDigit = true)
    (hsign : cs = ds ∨ cs = '+' :: ds) : unsigned cs = ds := by
  rcases hsign with rfl | rfl
  · unfold unsigned
    split
    · exact absurd (hdigits '+' List.mem_cons_self) (by decide)
    · rfl
  · rfl

theorem number?_eq_some {s : String} {n : Nat} : number? s = some n ↔ Spells s n := by
  have hword : ∀ n, n ≤ maxWord ↔ n < UInt64.size := fun n => Nat.lt_succ_iff.symm
  have hread : ∀ ds : List Char, (ds.isEmpty || !ds.all Json.isDigit) = false ↔
      ds ≠ [] ∧ ∀ d ∈ ds, d.isDigit = true := by
    simp [isDigit_eq]
  unfold number?
  dsimp only
  constructor
  · intro h
    split at h
    · cases h
    · rename_i hdigits
      obtain ⟨hsome, hdigits⟩ := (hread _).1 (Bool.eq_false_iff.2 hdigits)
      rw [foldl_digits] at h
      split at h
      · rename_i hfits
        cases h
        exact ⟨unsigned_spec _, hsome, hdigits, rfl, (hword _).1 hfits⟩
      · cases h
  · rintro ⟨hsign, hsome, hdigits, rfl, hfits⟩
    rw [unsigned_digits hdigits hsign, (hread _).2 ⟨hsome, hdigits⟩, foldl_digits,
      if_neg Bool.false_ne_true, if_pos ((hword _).2 hfits)]

end Config
end Rollout
