import Rollout.Json.Printer
import Rollout.Json.Reader

/-!
Scalars that were printed are read back: strings of any characters, numbers that fit a word, and
names. What follows a value is the end of the text or of an item.
-/

namespace Rollout.Json

/-! ## Strings -/

theorem hexCode_digitChar :
    ∀ n, n < 0x20 →
      hexCode (some '0') (some '0') (some (Nat.digitChar (n / 16)))
        (some (Nat.digitChar (n % 16))) = some n := by
  decide

/-- A character that needs no escape is taken as it stands. -/
theorem scanString_plain {c : Char} (hquote : c ≠ '"') (hbackslash : c ≠ '\\')
    (hcontrol : ¬c.toNat < 0x20) {s t r : Text} (h : scanString s = .ok (t, r)) :
    scanString (some c :: s) = .ok (some c :: t, r) := by
  have hplain : isControl (some c) = false := by simpa [isControl] using hcontrol
  rw [scanString]
  · simp only [hplain, Bool.false_eq_true, if_false, h]
  all_goals simp [hquote, hbackslash]

/-- An escaped character is read as itself. -/
theorem scanString_escape (c : Char) {s t r : Text} (h : scanString s = .ok (t, r)) :
    scanString ((escape c).map some ++ s) = .ok (some c :: t, r) := by
  unfold escape
  split
  case h_8 hquote hbackslash _ _ _ _ _ =>
    split
    case isTrue hcontrol =>
      have hcode := hexCode_digitChar c.toNat hcontrol
      have hlow : isLowSurrogate c.toNat = false := by simp [isLowSurrogate]; omega
      have hhigh : isHighSurrogate c.toNat = false := by simp [isHighSurrogate]; omega
      simp [scanString, hcode, hlow, hhigh, h, Char.ofNat_toNat]
    case isFalse hcontrol => exact scanString_plain hquote hbackslash hcontrol h
  all_goals simp [scanString, unescape, h]

theorem scanString_escaped (cs : List Char) (r : Text) :
    scanString ((cs.flatMap escape).map some ++ some '"' :: r) = .ok (cs.map some, r) := by
  induction cs with
  | nil => simp [scanString]
  | cons c cs ih =>
    have hnext := scanString_escape c ih
    simpa only [List.flatMap_cons, List.map_append, List.append_assoc, List.map_cons] using hnext

theorem characters?_map_some (cs : List Char) : characters? (cs.map some) = some cs := by
  induction cs with
  | nil => rfl
  | cons c cs ih => simp [characters?, ih]

theorem readString_escaped (s : String) (r : Text) :
    readString ((s.toList.flatMap escape).map some ++ some '"' :: r) = .ok (s, r) := by
  simp [readString, scanString_escaped, characters?_map_some]

/-! ## Numbers -/

/-- The end of a text, or of an item between brackets. -/
def Ends (rest : Text) : Prop :=
  ∀ x ∈ rest.head?, x = some ',' ∨ x = some ']' ∨ x = some '}'

theorem isDigit_iff {c : Char} : isDigit c = true ↔ 48 ≤ c.toNat ∧ c.toNat ≤ 57 := by
  simp [isDigit, Char.le_def, UInt32.le_iff_toNat_le]

theorem isDigit_of_mem_toDigits {n : Nat} {c : Char} (hc : c ∈ Nat.toDigits 10 n) :
    isDigit c = true := by
  have hdigit : c.isDigit = true := Nat.isDigit_of_mem_toDigits (by decide) (by decide) hc
  rw [isDigit_iff]
  simpa [Char.isDigit, UInt32.le_iff_toNat_le] using hdigit

/-- A number that is not zero has no zero in front. -/
theorem toDigits_eq_cons {n : Nat} (hn : 0 < n) :
    ∃ d ds, Nat.toDigits 10 n = d :: ds ∧ d ≠ '0' := by
  induction n using Nat.strongRecOn with
  | ind n ih =>
    by_cases hsmall : n < 10
    · refine ⟨n.digitChar, [], Nat.toDigits_of_lt_base hsmall, ?_⟩
      rw [Ne, Nat.digitChar_eq_zero]
      omega
    · obtain ⟨d, ds, hds, hd⟩ := ih (n / 10) (by omega) (by omega)
      refine ⟨d, ds ++ [(n % 10).digitChar], ?_, hd⟩
      rw [Nat.toDigits_of_base_le (by decide) (by omega), hds, List.cons_append]

theorem takeDigits_append {ds : List Char} (hds : ∀ d ∈ ds, isDigit d = true) {rest : Text}
    (hrest : takeDigits rest = ([], rest)) :
    takeDigits (ds.map some ++ rest) = (ds.map digitValue, rest) := by
  induction ds with
  | nil => exact hrest
  | cons d ds ih =>
    have hd : isDigit d = true := hds d (by simp)
    have htail := ih fun x hx => hds x (by simp [hx])
    simp only [List.map_cons, List.cons_append, takeDigits, hd, if_true, htail]

theorem Ends.takeDigits {rest : Text} (h : Ends rest) : takeDigits rest = ([], rest) := by
  cases rest with
  | nil => rfl
  | cons x rest =>
    rcases h x rfl with rfl | rfl | rfl <;> rfl

theorem le_ofDigitChars (ds : List Char) (n : Nat) : n ≤ Nat.ofDigitChars 10 ds n := by
  induction ds generalizing n with
  | nil => exact Nat.le_refl n
  | cons d ds ih =>
    rw [Nat.ofDigitChars_cons]
    have hstep := ih (10 * n + (d.toNat - '0'.toNat))
    omega

/-- Digits of a number that fits a word all go into it. -/
theorem gather_digits (ds : List Char) (n : Nat) (hfits : Nat.ofDigitChars 10 ds n ≤ maxWord) :
    gather n 0 (ds.map digitValue) = (Nat.ofDigitChars 10 ds n, 0) := by
  induction ds generalizing n with
  | nil => rfl
  | cons d ds ih =>
    rw [Nat.ofDigitChars_cons] at hfits ⊢
    have hstep := le_ofDigitChars ds (10 * n + (d.toNat - '0'.toNat))
    have hvalue : n * 10 + digitValue d = 10 * n + (d.toNat - '0'.toNat) := by
      rw [digitValue]
      omega
    have hroom : ¬(0 < 0 ∨ maxWord < n * 10 + digitValue d) := by omega
    rw [List.map_cons, gather, if_neg hroom, hvalue, ih _ hfits]

/-- The digits of a number that fits a word are its whole part. -/
theorem scanUnsigned_digits {n : Nat} (hn : n ≤ maxWord) (negative : Bool) {rest : Text}
    (hrest : Ends rest) :
    scanUnsigned negative ((Nat.toDigits 10 n).map some ++ rest) =
      scanTail negative n 0 rest := by
  rcases Nat.eq_zero_or_pos n with rfl | hpos
  · have hzero : Nat.toDigits 10 0 = ['0'] := by decide
    rw [hzero]
    cases rest with
    | nil => rfl
    | cons x rest => rcases hrest x rfl with rfl | rfl | rfl <;> rfl
  · obtain ⟨d, ds, hds, hzero⟩ := toDigits_eq_cons hpos
    have hdigits : ∀ c ∈ Nat.toDigits 10 n, isDigit c = true := fun c hc =>
      isDigit_of_mem_toDigits hc
    have hvalue : Nat.ofDigitChars 10 (Nat.toDigits 10 n) 0 = n := Nat.ofDigitChars_ten_toDigits
    have htaken := takeDigits_append hdigits hrest.takeDigits
    have hgathered := gather_digits (Nat.toDigits 10 n) 0 (by omega)
    rw [hds] at htaken hgathered hvalue ⊢
    simp only [List.map_cons, List.cons_append] at htaken hgathered ⊢
    rw [scanUnsigned]
    · simp only [htaken, hgathered, hvalue]
    all_goals simp [hzero]

/-- A whole part that ends its number is an integer if it fits a word of its sign. -/
theorem scanTail_ends {rest : Text} (hrest : Ends rest) (negative : Bool) (n : Nat) :
    scanTail negative n 0 rest =
      if negative then
        if n = 0 ∨ Nat.pow 2 63 < n then .ok (signed true (Float.ofNat n), rest)
        else .ok (.negative (-(n : Int)), rest)
      else .ok (.natural n, rest) := by
  cases rest with
  | nil => rfl
  | cons x rest =>
    rcases hrest x rfl with rfl | rfl | rfl <;> rfl

/-- What a number starts with. -/
theorem natural_eq_cons (n : Nat) : ∃ c cs, Print.natural n = c :: cs ∧ isDigit c = true := by
  have htext : Print.natural n = Nat.toDigits 10 n := Nat.toList_repr
  obtain ⟨c, cs, hcs⟩ := List.exists_cons_of_ne_nil (Nat.toDigits_ne_nil (n := n) (b := 10))
  exact ⟨c, cs, htext.trans hcs, isDigit_of_mem_toDigits (by rw [hcs]; simp)⟩

theorem scanNumber_natural {n : Nat} (hn : n ≤ maxWord) {rest : Text} (hrest : Ends rest) :
    scanNumber ((Print.natural n).map some ++ rest) = .ok (.natural n, rest) := by
  have htext : Print.natural n = Nat.toDigits 10 n := Nat.toList_repr
  have hunsigned := scanUnsigned_digits hn false hrest
  obtain ⟨c, cs, hcs, hdigit⟩ := natural_eq_cons n
  have hminus : c ≠ '-' := by
    rintro rfl
    cases hdigit
  rw [← htext, hcs, List.map_cons, List.cons_append, scanTail_ends hrest] at hunsigned
  rw [hcs, List.map_cons, List.cons_append, scanNumber, hunsigned]
  · rfl
  · simp [hminus]

/-- A sign and the digits of a number above zero. -/
theorem scanNumber_negative {n : Nat} (hpos : 0 < n) (hn : n ≤ Nat.pow 2 63) {rest : Text}
    (hrest : Ends rest) :
    scanNumber (some '-' :: ((Print.natural n).map some ++ rest)) =
      .ok (.negative (-(n : Int)), rest) := by
  have htext : Print.natural n = Nat.toDigits 10 n := Nat.toList_repr
  have hword : n ≤ maxWord := Nat.le_trans hn (by decide)
  have hfits : ¬(n = 0 ∨ Nat.pow 2 63 < n) := by omega
  rw [scanNumber, htext, scanUnsigned_digits hword true hrest, scanTail_ends hrest, if_pos rfl,
    if_neg hfits]

/-- An integer that fits a signed word, with its sign if it is negative. -/
theorem scanNumber_integer {n : Int} (hlow : -(Nat.pow 2 63 : Nat) ≤ n)
    (hhigh : n < (Nat.pow 2 63 : Nat)) {rest : Text} (hrest : Ends rest) :
    scanNumber ((Print.integer n).map some ++ rest) =
      .ok (if n < 0 then .negative n else .natural n.toNat, rest) := by
  cases n with
  | ofNat n =>
    have hn : n < Nat.pow 2 63 := Int.ofNat_lt.1 hhigh
    have hword : n ≤ maxWord := Nat.le_trans (Nat.le_of_lt hn) (by decide)
    exact scanNumber_natural hword hrest
  | negSucc n =>
    have htext : Print.integer (Int.negSucc n) = '-' :: Print.natural (n + 1) :=
      String.toList_append (s := "-") (t := toString (n + 1))
    rw [htext, List.map_cons, List.cons_append, if_pos (Int.negSucc_lt_zero n)]
    exact scanNumber_negative (n := n + 1) (by omega) (by omega) hrest

theorem integer_eq_cons (n : Int) :
    ∃ c cs, Print.integer n = c :: cs ∧ startsNumber (some c) = true := by
  cases n with
  | ofNat n =>
    obtain ⟨c, cs, hcs, hdigit⟩ := natural_eq_cons n
    exact ⟨c, cs, hcs, by simp [startsNumber, hdigit]⟩
  | negSucc n =>
    exact ⟨'-', _, String.toList_append (s := "-") (t := toString (n + 1)), by decide⟩

/-! ## Numbers that are read -/

/-- A natural number fits a word, and a negative one is not above zero. -/
def Number.Fits : Number → Prop
  | .natural n => n ≤ maxWord
  | .negative n => n ≤ 0
  | .float _ => True

theorem floatOf_fits {negative : Bool} {significand : Nat} {exponent : Int} {s r : Text}
    {m : Number} (h : floatOf negative significand exponent s = .ok (m, r)) : m.Fits := by
  unfold floatOf at h
  split at h
  · cases h
  · cases h
    trivial

theorem scanExponent_fits {negative : Bool} {significand : Nat} {exponent : Int} {s r : Text}
    {m : Number} (h : scanExponent negative significand exponent s = .ok (m, r)) : m.Fits := by
  unfold scanExponent at h
  simp only at h
  split at h
  case h_1 => cases h
  case h_2 => cases h
  case h_3 =>
    split at h
    case isTrue =>
      -- The sign of the exponent is settled first, then whether the number is too large.
      split at h
      all_goals
        split at h
        · cases h
        · cases h
          trivial
    case isFalse => exact floatOf_fits h

theorem scanFraction_fits {negative : Bool} {significand : Nat} {exponent : Int} {s r : Text}
    {m : Number} (h : scanFraction negative significand exponent s = .ok (m, r)) : m.Fits := by
  unfold scanFraction at h
  split at h
  case h_1 => cases h
  case h_2 => cases h
  case h_3 =>
    simp only at h
    split at h
    · exact scanExponent_fits h
    · exact scanExponent_fits h
    · exact floatOf_fits h

theorem scanTail_fits {negative : Bool} {significand spare : Nat} {s r : Text} {m : Number}
    (hfits : significand ≤ maxWord) (h : scanTail negative significand spare s = .ok (m, r)) :
    m.Fits := by
  unfold scanTail at h
  split at h
  case h_1 => exact scanFraction_fits h
  case h_2 => exact scanExponent_fits h
  case h_3 => exact scanExponent_fits h
  case h_4 =>
    split at h
    · exact floatOf_fits h
    split at h
    · split at h
      · cases h
        trivial
      · cases h
        simp [Number.Fits]
    · cases h
      exact hfits

theorem gather_le {n : Nat} (hn : n ≤ maxWord) (spare : Nat) (ds : List Nat) :
    (gather n spare ds).1 ≤ maxWord := by
  induction ds generalizing n spare with
  | nil => exact hn
  | cons d ds ih =>
    rw [gather]
    split
    case isTrue => exact ih hn _
    case isFalse hroom => exact ih (by omega) _

theorem scanUnsigned_fits {negative : Bool} {s r : Text} {m : Number}
    (h : scanUnsigned negative s = .ok (m, r)) : m.Fits := by
  unfold scanUnsigned at h
  split at h
  case h_1 => cases h
  case h_2 =>
    split at h
    · split at h
      · cases h
      · exact scanTail_fits (Nat.zero_le _) h
    · exact scanTail_fits (Nat.zero_le _) h
  case h_3 =>
    split at h
    · cases h
    · exact scanTail_fits (gather_le (Nat.zero_le _) _ _) h

theorem scanNumber_fits {s r : Text} {m : Number} (h : scanNumber s = .ok (m, r)) : m.Fits := by
  unfold scanNumber at h
  split at h <;> exact scanUnsigned_fits h

end Rollout.Json
