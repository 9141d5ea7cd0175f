import Rollout.Proofs.Json.Lexeme

/-!
Numbers as the grammar of JSON texts has them. A number by the grammar is passed over whole
(`skipNumber_numeral`). What is read as a number is one, and is passed over as well; it is read as
the same number in front of any text that stops it (`scanNumber_ok`).
-/

namespace Rollout.Json

def Digits (ds : List Char) : Prop := ds ≠ [] ∧ ∀ d ∈ ds, isDigit d = true

inductive Exponent : Text → Prop
  | none : Exponent []
  | given {mark : Char} {sign ds : List Char} : mark ∈ ['e', 'E'] → sign ∈ [[], ['+'], ['-']] →
      Digits ds → Exponent ((mark :: (sign ++ ds)).map some)

inductive Fraction : Text → Prop
  | none : Fraction []
  | given {ds : List Char} : Digits ds → Fraction (('.' :: ds).map some)

/-- A whole part has no zero in front. -/
inductive Whole : Text → Prop
  | zero : Whole [some '0']
  | digits {ds : List Char} : Digits ds → ds.head? ≠ some '0' → Whole (ds.map some)

inductive Unsigned : Text → Prop
  | parts {whole fraction exponent : Text} : Whole whole → Fraction fraction →
      Exponent exponent → Unsigned (whole ++ (fraction ++ exponent))

inductive Numeral : Text → Prop
  | positive {s : Text} : Unsigned s → Numeral s
  | negative {s : Text} : Unsigned s → Numeral (some '-' :: s)

/-! ## Numbers that are passed over -/

def NoDigit (rest : Text) : Prop := ∀ c, rest.head? = some (some c) → isDigit c = false

theorem Stops.noDigit {rest : Text} (h : Stops rest) : NoDigit rest := by
  intro c hc
  have hcarries := h c hc
  simp only [carriesOn, Bool.or_eq_false_iff] at hcarries
  exact hcarries.1.1.1

theorem noDigit_of_no_char {rest : Text} (h : ∀ c t, rest = some c :: t → False) :
    NoDigit rest := by
  intro c hc
  cases rest with
  | nil => cases hc
  | cons x t => exact (h c t (by rw [show x = some c by simpa using hc])).elim

theorem noDigit_cons {c : Char} (hc : isDigit c = false) (rest : Text) :
    NoDigit (some c :: rest) := by
  intro d hd
  cases hd
  exact hc

theorem skipDigits_append {ds : List Char} (hds : ∀ d ∈ ds, isDigit d = true) {rest : Text}
    (hrest : NoDigit rest) : skipDigits (ds.map some ++ rest) = rest := by
  induction ds with
  | nil =>
    cases rest with
    | nil => rfl
    | cons x rest =>
      cases x with
      | none => rfl
      | some c => simp [skipDigits, hrest c rfl]
  | cons d ds ih =>
    have hd : isDigit d = true := hds d (by simp)
    rw [List.map_cons, List.cons_append, skipDigits, if_pos hd]
    exact ih fun x hx => hds x (by simp [hx])

theorem skipDigits_eq (s : Text) :
    ∃ ds : List Char, (∀ d ∈ ds, isDigit d = true) ∧ s = ds.map some ++ skipDigits s := by
  fun_induction skipDigits s with
  | case1 c s hc ih =>
    obtain ⟨ds, hds, hs⟩ := ih
    refine ⟨c :: ds, by simpa [hc] using hds, ?_⟩
    rw [List.map_cons, List.cons_append, ← hs]
  | case2 c s hc => exact ⟨[], by simp, rfl⟩
  | case3 s _ => exact ⟨[], by simp, rfl⟩

theorem skipSomeDigits_digits {ds : List Char} (hds : Digits ds) {rest : Text}
    (hrest : NoDigit rest) : skipSomeDigits (ds.map some ++ rest) = .ok rest := by
  obtain ⟨hne, hdigits⟩ := hds
  cases ds with
  | nil => exact absurd rfl hne
  | cons d ds =>
    have hd : isDigit d = true := hdigits d (by simp)
    rw [List.map_cons, List.cons_append, skipSomeDigits, if_pos hd,
      skipDigits_append (fun x hx => hdigits x (by simp [hx])) hrest]

theorem skipSomeDigits_ok {s r : Text} (h : skipSomeDigits s = .ok r) :
    ∃ ds, Digits ds ∧ s = ds.map some ++ r := by
  unfold skipSomeDigits at h
  split at h
  case h_2 => cases h
  case h_1 c s =>
    split at h
    case isFalse => cases h
    case isTrue hc =>
      cases h
      obtain ⟨ds, hds, hs⟩ := skipDigits_eq s
      refine ⟨c :: ds, ⟨by simp, by simpa [hc] using hds⟩, ?_⟩
      rw [List.map_cons, List.cons_append, ← hs]

theorem skipExponent_exponent {exponent : Text} (h : Exponent exponent) {rest : Text}
    (hrest : Stops rest) : skipExponent (exponent ++ rest) = .ok rest := by
  cases h with
  | none =>
    cases rest with
    | nil => rfl
    | cons x rest =>
      have hmark : ∀ mark, carriesOn mark = true → x ≠ some mark := by
        rintro mark hmark rfl
        rw [hrest mark rfl] at hmark
        cases hmark
      have hlower := hmark 'e' (by decide)
      have hupper := hmark 'E' (by decide)
      rw [List.nil_append, skipExponent]
      all_goals simp_all
  | @given mark sign ds hmark hsign hds =>
    have hdigits := skipSomeDigits_digits hds hrest.noDigit
    obtain ⟨d, ds, rfl⟩ := List.exists_cons_of_ne_nil hds.1
    have hd : isDigit d = true := hds.2 d (by simp)
    have hplus : d ≠ '+' := by rintro rfl; cases hd
    have hminus : d ≠ '-' := by rintro rfl; cases hd
    simp only [List.mem_cons, List.not_mem_nil, or_false] at hmark hsign
    rcases hmark with rfl | rfl
    all_goals
      rcases hsign with rfl | rfl | rfl
      · simpa [skipExponent, hplus, hminus] using hdigits
      · exact hdigits
      · exact hdigits

theorem skipExponent_ok {s r : Text} (h : skipExponent s = .ok r) :
    ∃ exponent, Exponent exponent ∧ s = exponent ++ r := by
  have hgiven : ∀ (mark : Char) (sign : List Char) (t : Text), mark ∈ ['e', 'E'] →
      sign ∈ [[], ['+'], ['-']] → skipSomeDigits t = .ok r →
      ∃ exponent, Exponent exponent ∧ some mark :: (sign.map some ++ t) = exponent ++ r := by
    intro mark sign t hmark hsign ht
    obtain ⟨ds, hds, rfl⟩ := skipSomeDigits_ok ht
    exact ⟨_, .given hmark hsign hds, by simp⟩
  unfold skipExponent at h
  split at h
  case h_1 => exact hgiven 'e' ['+'] _ (by simp) (by simp) h
  case h_2 => exact hgiven 'e' ['-'] _ (by simp) (by simp) h
  case h_3 => exact hgiven 'E' ['+'] _ (by simp) (by simp) h
  case h_4 => exact hgiven 'E' ['-'] _ (by simp) (by simp) h
  case h_5 => exact hgiven 'e' [] _ (by simp) (by simp) h
  case h_6 => exact hgiven 'E' [] _ (by simp) (by simp) h
  case h_7 =>
    cases h
    exact ⟨[], .none, rfl⟩

theorem noDigit_exponent {exponent : Text} (h : Exponent exponent) {rest : Text}
    (hrest : NoDigit rest) : NoDigit (exponent ++ rest) := by
  cases h with
  | none => exact hrest
  | given hmark _ _ =>
    simp only [List.mem_cons, List.not_mem_nil, or_false] at hmark
    rcases hmark with rfl | rfl <;> exact noDigit_cons (by decide) _

theorem noDigit_fraction {fraction : Text} (h : Fraction fraction) {rest : Text}
    (hrest : NoDigit rest) : NoDigit (fraction ++ rest) := by
  cases h with
  | none => exact hrest
  | given _ => exact noDigit_cons (by decide) _

theorem skipFraction_fraction {fraction exponent : Text} (hfraction : Fraction fraction)
    (hexponent : Exponent exponent) {rest : Text} (hrest : Stops rest) :
    skipFraction (fraction ++ (exponent ++ rest)) = .ok rest := by
  have hskip := skipExponent_exponent hexponent hrest
  cases hfraction with
  | none =>
    have hpoint : ∀ s, exponent ++ rest ≠ some '.' :: s := by
      intro s hs
      cases hexponent with
      | none => exact absurd (hrest '.' (by rw [show rest = _ from hs]; rfl)) (by decide)
      | given hmark _ _ => simp at hmark hs; simp_all
    rw [List.nil_append, skipFraction, hskip]
    exact hpoint
  | @given ds hds =>
    have hdigits := skipSomeDigits_digits hds (noDigit_exponent hexponent hrest.noDigit)
    rw [List.map_cons, List.cons_append, skipFraction, hdigits]
    exact hskip

theorem skipFraction_ok {s r : Text} (h : skipFraction s = .ok r) :
    ∃ fraction exponent, Fraction fraction ∧ Exponent exponent ∧
      s = fraction ++ (exponent ++ r) := by
  unfold skipFraction at h
  split at h
  case h_1 s =>
    obtain ⟨t, ht, hr⟩ := bind_ok h
    obtain ⟨ds, hds, rfl⟩ := skipSomeDigits_ok ht
    obtain ⟨exponent, hexponent, rfl⟩ := skipExponent_ok hr
    exact ⟨_, exponent, .given hds, hexponent, by simp⟩
  case h_2 =>
    obtain ⟨exponent, hexponent, rfl⟩ := skipExponent_ok h
    exact ⟨[], exponent, .none, hexponent, rfl⟩

/-- A zero in front is the whole part. -/
theorem skipUnsigned_zero {t : Text} (ht : NoDigit t) :
    skipUnsigned (some '0' :: t) = skipFraction t := by
  cases t with
  | nil => rfl
  | cons x t =>
    cases x with
    | none => rfl
    | some c => simp [skipUnsigned, ht c rfl]

theorem skipUnsigned_unsigned {v : Text} (h : Unsigned v) {rest : Text} (hrest : Stops rest) :
    skipUnsigned (v ++ rest) = .ok rest := by
  obtain ⟨hwhole, hfraction, hexponent⟩ := h
  rename_i whole fraction exponent
  have hskip := skipFraction_fraction hfraction hexponent hrest
  have hnext : NoDigit (fraction ++ (exponent ++ rest)) :=
    noDigit_fraction hfraction (noDigit_exponent hexponent hrest.noDigit)
  rw [List.append_assoc, List.append_assoc]
  cases hwhole with
  | zero => exact (skipUnsigned_zero hnext).trans hskip
  | @digits ds hds hzero =>
    have hdigits := skipSomeDigits_digits hds hnext
    obtain ⟨d, ds, rfl⟩ := List.exists_cons_of_ne_nil hds.1
    have hd : d ≠ '0' := by simpa using hzero
    rw [List.map_cons, List.cons_append] at hdigits ⊢
    rw [skipUnsigned, hdigits]
    · exact hskip
    all_goals simp [hd]

theorem skipUnsigned_ok {s r : Text} (h : skipUnsigned s = .ok r) :
    ∃ v, Unsigned v ∧ s = v ++ r := by
  have hzero : ∀ t, skipFraction t = .ok r → ∃ v, Unsigned v ∧ some '0' :: t = v ++ r := by
    intro t ht
    obtain ⟨fraction, exponent, hfraction, hexponent, rfl⟩ := skipFraction_ok ht
    exact ⟨_, .parts .zero hfraction hexponent, by simp⟩
  unfold skipUnsigned at h
  split at h
  case h_1 =>
    split at h
    case isTrue => cases h
    case isFalse => exact hzero _ h
  case h_2 => exact hzero _ h
  case h_3 hfirst hsecond =>
    obtain ⟨t, ht, hr⟩ := bind_ok h
    obtain ⟨ds, hds, rfl⟩ := skipSomeDigits_ok ht
    obtain ⟨fraction, exponent, hfraction, hexponent, rfl⟩ := skipFraction_ok hr
    have hhead : ds.head? ≠ some '0' := by
      intro hhead
      obtain ⟨ds, rfl⟩ : ∃ more, ds = '0' :: more := by
        cases ds with
        | nil => cases hhead
        | cons d ds => exact ⟨ds, by simpa using hhead⟩
      exact hsecond _ rfl
    exact ⟨_, .parts (.digits hds hhead) hfraction hexponent, by simp⟩

/-! ## Numbers that are read -/

theorem takeDigits_noDigit {rest : Text} (h : NoDigit rest) : takeDigits rest = ([], rest) := by
  cases rest with
  | nil => rfl
  | cons x rest =>
    cases x with
    | none => rfl
    | some c => simp [takeDigits, h c rfl]

theorem takeDigits_eq (s : Text) :
    ∃ ds : List Char, (∀ d ∈ ds, isDigit d = true) ∧ s = ds.map some ++ (takeDigits s).2 ∧
      (takeDigits s).1 = ds.map digitValue ∧ skipDigits s = (takeDigits s).2 := by
  fun_induction takeDigits s with
  | case1 c s hc ds r hr ih =>
    obtain ⟨cs, hcs, hs, hvalues, hskip⟩ := ih
    rw [hr] at hs hvalues hskip
    simp only at hs hvalues hskip
    refine ⟨c :: cs, by simpa [hc] using hcs, by simp [← hs], by simp [hvalues], ?_⟩
    rw [skipDigits, if_pos hc, hskip]
  | case2 c s hc => exact ⟨[], by simp, rfl, rfl, by rw [skipDigits, if_neg hc]⟩
  | case3 s _ => exact ⟨[], by simp, rfl, rfl, by rw [skipDigits]; assumption⟩

/-- Digits that are taken are passed over, and taken again in front of anything that is no digit. -/
theorem takeDigits_ok {s r : Text} {ns : List Nat} (h : takeDigits s = (ns, r)) (hne : ns ≠ []) :
    ∃ ds, Digits ds ∧ s = ds.map some ++ r ∧ skipSomeDigits s = .ok r ∧
      ∀ rest, NoDigit rest → takeDigits (ds.map some ++ rest) = (ns, rest) := by
  obtain ⟨ds, hds, hs, hvalues, hskip⟩ := takeDigits_eq s
  rw [h] at hs hvalues hskip
  simp only at hs hvalues hskip
  subst hvalues
  obtain ⟨d, ds, rfl⟩ := List.exists_cons_of_ne_nil (fun heq => hne (by rw [heq]; rfl) : ds ≠ [])
  have hd : isDigit d = true := hds d (by simp)
  refine ⟨d :: ds, ⟨by simp, hds⟩, hs, ?_, ?_⟩
  · rw [hs, List.map_cons, List.cons_append] at hskip ⊢
    rw [skipDigits, if_pos hd] at hskip
    rw [skipSomeDigits, if_pos hd, hskip]
  · intro rest hrest
    exact takeDigits_append hds (takeDigits_noDigit hrest)

theorem floatOf_ok {negative : Bool} {significand : Nat} {exponent : Int} {s r : Text} {m : Number}
    (h : floatOf negative significand exponent s = .ok (m, r)) :
    r = s ∧ ∀ rest, floatOf negative significand exponent rest = .ok (m, rest) := by
  unfold floatOf at h
  split at h
  case h_1 => cases h
  case h_2 hfloat =>
    cases h
    exact ⟨rfl, fun rest => by rw [floatOf, hfloat]⟩

theorem noDigit_takeDigits (s : Text) : NoDigit (takeDigits s).2 := by
  fun_induction takeDigits s with
  | case1 c s hc ds r hr ih => simpa [hr] using ih
  | case2 c s hc => exact noDigit_cons (by simpa using hc) s
  | case3 s hs => exact noDigit_of_no_char hs

/-- Another text behind some part does not begin with a digit if the first one did not. -/
theorem NoDigit.behind {v r rest : Text} (h : NoDigit (v ++ r)) (hrest : NoDigit rest) :
    NoDigit (v ++ rest) := by
  cases v with
  | nil => exact hrest
  | cons x v => exact h

/-- The exponent of a number behind its mark and its sign. -/
def scanPower (negative : Bool) (significand : Nat) (exponent : Int) (down : Bool) (s : Text) :
    Except Fault (Number × Text) :=
  match takeDigits s with
  | ([], []) => .error .endOfValue
  | ([], _ :: _) => .error .badNumber
  | (ds, r) =>
    let e := ds.foldl (fun e d => e * 10 + d) 0
    if maxExponent < e then
      if significand != 0 && !down then .error .numberOutOfRange else .ok (signed negative 0, r)
    else floatOf negative significand (if down then exponent - e else exponent + e) r

section

variable {negative : Bool} {significand : Nat} {exponent : Int} {s r : Text} {m : Number}

theorem scanExponent_eq : scanExponent negative significand exponent s =
    match s with
    | some '+' :: s => scanPower negative significand exponent false s
    | some '-' :: s => scanPower negative significand exponent true s
    | s => scanPower negative significand exponent false s := by
  cases s with
  | nil => rfl
  | cons x t =>
    by_cases hplus : x = some '+'
    · subst hplus
      rfl
    by_cases hminus : x = some '-'
    · subst hminus
      rfl
    · simp only [scanExponent, List.cons.injEq, hplus, hminus, false_and, imp_self, implies_true]
      rfl

/-- Where digits are due, some are there if the text neither ends nor goes on without them. -/
theorem ne_nil_of_rest {ns : List Nat} {t : Text} (hempty : ns = [] → t = [] → False)
    (hmore : ∀ x u, ns = [] → t = x :: u → False) : ns ≠ [] := by
  rintro rfl
  cases t with
  | nil => exact hempty rfl rfl
  | cons x u => exact hmore x u rfl rfl

theorem scanPower_ok {down : Bool}
    (h : scanPower negative significand exponent down s = .ok (m, r)) :
    ∃ ds, Digits ds ∧ s = ds.map some ++ r ∧ skipSomeDigits s = .ok r ∧
      ∀ rest, NoDigit rest →
        scanPower negative significand exponent down (ds.map some ++ rest) = .ok (m, rest) := by
  unfold scanPower at h
  split at h
  case h_1 => cases h
  case h_2 => cases h
  case h_3 ns t hempty hmore htaken =>
    have hne : ns ≠ [] := ne_nil_of_rest hempty hmore
    obtain ⟨n, ns, rfl⟩ := List.exists_cons_of_ne_nil hne
    obtain ⟨ds, hds, hs, hskip, hagain⟩ := takeDigits_ok htaken hne
    simp only at h
    have hrt : r = t := by
      split at h
      · split at h
        · cases h
        · cases h; rfl
      · exact (floatOf_ok h).1
    subst hrt
    refine ⟨ds, hds, hs, hskip, fun rest hrest => ?_⟩
    rw [scanPower, hagain rest hrest]
    simp only
    split
    case isTrue hlarge =>
      rw [if_pos hlarge] at h
      split at h
      case isTrue => cases h
      case isFalse hsmall =>
        cases h
        rw [if_neg hsmall]
    case isFalse hlarge =>
      rw [if_neg hlarge] at h
      exact (floatOf_ok h).2 rest

theorem scanExponent_ok (h : scanExponent negative significand exponent s = .ok (m, r)) :
    (∀ mark ∈ ['e', 'E'], skipExponent (some mark :: s) = .ok r) ∧
    ∃ v, s = v ++ r ∧ ∀ rest, NoDigit rest →
      scanExponent negative significand exponent (v ++ rest) = .ok (m, rest) := by
  rw [scanExponent_eq] at h
  split at h
  case h_1 s =>
    obtain ⟨ds, hds, rfl, hskip, hagain⟩ := scanPower_ok h
    refine ⟨?_, some '+' :: ds.map some, rfl, hagain⟩
    simp [skipExponent, hskip]
  case h_2 s =>
    obtain ⟨ds, hds, rfl, hskip, hagain⟩ := scanPower_ok h
    refine ⟨?_, some '-' :: ds.map some, rfl, hagain⟩
    simp [skipExponent, hskip]
  case h_3 =>
    obtain ⟨ds, hds, rfl, hskip, hagain⟩ := scanPower_ok h
    obtain ⟨d, ds, rfl⟩ := List.exists_cons_of_ne_nil hds.1
    have hd : isDigit d = true := hds.2 d (by simp)
    have hplus : d ≠ '+' := by rintro rfl; cases hd
    have hminus : d ≠ '-' := by rintro rfl; cases hd
    refine ⟨?_, (d :: ds).map some, rfl, fun rest hrest => ?_⟩
    · simpa [skipExponent, hplus, hminus] using hskip
    · simpa [scanExponent_eq, hplus, hminus] using hagain rest hrest

/-- What follows the digits of a fraction. -/
def scanMarked (negative : Bool) (significand : Nat) (exponent : Int) (s : Text) :
    Except Fault (Number × Text) :=
  match s with
  | some 'e' :: s | some 'E' :: s => scanExponent negative significand exponent s
  | s => floatOf negative significand exponent s

theorem scanMarked_ok (h : scanMarked negative significand exponent s = .ok (m, r)) :
    skipExponent s = .ok r ∧ ∃ v, s = v ++ r ∧ ∀ rest, Stops rest →
      scanMarked negative significand exponent (v ++ rest) = .ok (m, rest) := by
  unfold scanMarked at h
  split at h
  case h_1 s =>
    obtain ⟨hskip, v, rfl, hagain⟩ := scanExponent_ok h
    exact ⟨hskip 'e' (by simp), some 'e' :: v, rfl, fun rest hrest => hagain rest hrest.noDigit⟩
  case h_2 s =>
    obtain ⟨hskip, v, rfl, hagain⟩ := scanExponent_ok h
    exact ⟨hskip 'E' (by simp), some 'E' :: v, rfl, fun rest hrest => hagain rest hrest.noDigit⟩
  case h_3 hlower hupper =>
    obtain ⟨rfl, hagain⟩ := floatOf_ok h
    refine ⟨?_, [], rfl, fun rest hrest => ?_⟩
    · rw [skipExponent]
      all_goals simp_all
    · rw [List.nil_append, scanMarked]
      · exact hagain rest
      all_goals
        rintro t rfl
        exact absurd (hrest _ rfl) (by decide)

theorem scanFraction_ok (h : scanFraction negative significand exponent s = .ok (m, r)) :
    skipFraction (some '.' :: s) = .ok r ∧ ∃ v, s = v ++ r ∧ ∀ rest, Stops rest →
      scanFraction negative significand exponent (v ++ rest) = .ok (m, rest) := by
  have heq : ∀ t : Text, scanFraction negative significand exponent t =
      match takeDigits t with
      | ([], []) => .error .endOfValue
      | ([], _ :: _) => .error .badNumber
      | (ds, r) => scanMarked negative (gatherFraction significand 0 ds).1
          (exponent - (gatherFraction significand 0 ds).2) r := by
    intro t
    rw [scanFraction]
    rfl
  rw [heq] at h
  split at h
  case h_1 => cases h
  case h_2 => cases h
  case h_3 ns t hempty hmore htaken =>
    have hne : ns ≠ [] := ne_nil_of_rest hempty hmore
    obtain ⟨n, ns, rfl⟩ := List.exists_cons_of_ne_nil hne
    have hnodigit := noDigit_takeDigits s
    obtain ⟨ds, hds, hs, hskip, hagain⟩ := takeDigits_ok htaken hne
    obtain ⟨hbehind, v, rfl, hlater⟩ := scanMarked_ok h
    rw [htaken] at hnodigit
    refine ⟨?_, ds.map some ++ v, by rw [hs, List.append_assoc], fun rest hrest => ?_⟩
    · rw [skipFraction, hskip]
      exact hbehind
    · have hnext : NoDigit (v ++ rest) := hnodigit.behind hrest.noDigit
      rw [heq, List.append_assoc, hagain _ hnext]
      exact hlater rest hrest

/-- A number that is its whole part. -/
def scanEnd (negative : Bool) (significand spare : Nat) (s : Text) :
    Except Fault (Number × Text) :=
  if 0 < spare then floatOf negative significand spare s
  else if negative then
    if significand = 0 ∨ Nat.pow 2 63 < significand then
      .ok (signed true (Float.ofNat significand), s)
    else .ok (.negative (-(significand : Int)), s)
  else .ok (.natural significand, s)

theorem scanEnd_ok {spare : Nat} (h : scanEnd negative significand spare s = .ok (m, r)) :
    r = s ∧ ∀ rest, scanEnd negative significand spare rest = .ok (m, rest) := by
  unfold scanEnd at h
  split at h
  case isTrue hspare =>
    obtain ⟨hr, hagain⟩ := floatOf_ok h
    exact ⟨hr, fun rest => by rw [scanEnd, if_pos hspare, hagain]⟩
  case isFalse hspare =>
    split at h
    case isTrue hneg =>
      split at h
      case isTrue hfloat =>
        cases h
        exact ⟨rfl, fun rest => by rw [scanEnd, if_neg hspare, if_pos hneg, if_pos hfloat]⟩
      case isFalse hfits =>
        cases h
        exact ⟨rfl, fun rest => by rw [scanEnd, if_neg hspare, if_pos hneg, if_neg hfits]⟩
    case isFalse hneg =>
      cases h
      exact ⟨rfl, fun rest => by rw [scanEnd, if_neg hspare, if_neg hneg]⟩

theorem scanTail_eq {spare : Nat} (hpoint : ∀ t, s ≠ some '.' :: t)
    (hlower : ∀ t, s ≠ some 'e' :: t) (hupper : ∀ t, s ≠ some 'E' :: t) :
    scanTail negative significand spare s = scanEnd negative significand spare s := by
  rw [scanTail]
  · rfl
  · exact hpoint
  · exact hlower
  · exact hupper

theorem scanTail_ok {spare : Nat} (h : scanTail negative significand spare s = .ok (m, r)) :
    skipFraction s = .ok r ∧ ∃ v, s = v ++ r ∧ ∀ rest, Stops rest →
      scanTail negative significand spare (v ++ rest) = .ok (m, rest) := by
  have hmark : ∀ mark ∈ ['e', 'E'], ∀ t,
      skipFraction (some mark :: t) = skipExponent (some mark :: t) := by
    simp [skipFraction]
  unfold scanTail at h
  split at h
  case h_1 =>
    obtain ⟨hskip, v, rfl, hagain⟩ := scanFraction_ok h
    exact ⟨hskip, some '.' :: v, rfl, hagain⟩
  case h_2 =>
    obtain ⟨hskip, v, rfl, hagain⟩ := scanExponent_ok h
    exact ⟨(hmark 'e' (by simp) _).trans (hskip 'e' (by simp)), some 'e' :: v, rfl,
      fun rest hrest => hagain rest hrest.noDigit⟩
  case h_3 =>
    obtain ⟨hskip, v, rfl, hagain⟩ := scanExponent_ok h
    exact ⟨(hmark 'E' (by simp) _).trans (hskip 'E' (by simp)), some 'E' :: v, rfl,
      fun rest hrest => hagain rest hrest.noDigit⟩
  case h_4 hpoint hlower hupper =>
    obtain ⟨rfl, hagain⟩ := scanEnd_ok h
    refine ⟨?_, [], rfl, fun rest hrest => ?_⟩
    · rw [skipFraction, skipExponent]
      all_goals simp_all
    · rw [List.nil_append, scanTail_eq]
      · exact hagain rest
      all_goals
        rintro t rfl
        exact absurd (hrest _ rfl) (by decide)

theorem scanUnsigned_zero {t : Text} (ht : NoDigit t) :
    scanUnsigned negative (some '0' :: t) = scanTail negative 0 0 t := by
  cases t with
  | nil => rfl
  | cons x t =>
    cases x with
    | none => rfl
    | some c => simp [scanUnsigned, ht c rfl]

theorem scanUnsigned_ok (h : scanUnsigned negative s = .ok (m, r)) :
    skipUnsigned s = .ok r ∧ ∃ v, s = v ++ r ∧ ∀ rest, Stops rest →
      scanUnsigned negative (v ++ rest) = .ok (m, rest) := by
  unfold scanUnsigned at h
  split at h
  case h_1 => cases h
  case h_2 t =>
    have htail : NoDigit t ∧ scanTail negative 0 0 t = .ok (m, r) := by
      split at h
      case h_1 c t =>
        split at h
        case isTrue => cases h
        case isFalse hc => exact ⟨noDigit_cons (by simpa using hc) t, h⟩
      case h_2 hother => exact ⟨noDigit_of_no_char hother, h⟩
    obtain ⟨hnodigit, htail⟩ := htail
    obtain ⟨hskip, v, rfl, hagain⟩ := scanTail_ok htail
    refine ⟨(skipUnsigned_zero hnodigit).trans hskip, some '0' :: v, rfl, fun rest hrest => ?_⟩
    exact (scanUnsigned_zero (hnodigit.behind hrest.noDigit)).trans (hagain rest hrest)
  case h_3 hempty hzero =>
    have hnodigit := noDigit_takeDigits s
    split at h
    case h_1 => cases h
    case h_2 ns t hsome htaken =>
      have hne : ns ≠ [] := hsome
      obtain ⟨ds, hds, hs, hskip, hagain⟩ := takeDigits_ok htaken hne
      obtain ⟨hbehind, v, rfl, hlater⟩ := scanTail_ok h
      rw [htaken] at hnodigit
      obtain ⟨d, ds, rfl⟩ := List.exists_cons_of_ne_nil hds.1
      have hd : d ≠ '0' := by
        rintro rfl
        exact hzero _ hs
      refine ⟨?_, (d :: ds).map some ++ v, by rw [hs, List.append_assoc], fun rest hrest => ?_⟩
      · rw [skipUnsigned, hskip]
        · exact hbehind
        · exact fun c t hs' => hzero _ hs'
        · exact fun t hs' => hzero _ hs'
      · have hnext : NoDigit (v ++ rest) := hnodigit.behind hrest.noDigit
        have htaken' := hagain _ hnext
        rw [List.append_assoc]
        rw [List.map_cons, List.cons_append] at htaken' ⊢
        rw [scanUnsigned]
        · simp only [htaken']
          exact hlater rest hrest
        all_goals simp [hd]

end

/-! ## Signs -/

def skipNumber : Text → Except Fault Text
  | some '-' :: s => skipUnsigned s
  | s => skipUnsigned s

theorem Unsigned.eq_cons {v : Text} (h : Unsigned v) :
    ∃ d t, v = some d :: t ∧ isDigit d = true := by
  obtain ⟨hwhole, -, -⟩ := h
  cases hwhole with
  | zero => exact ⟨'0', _, rfl, by decide⟩
  | @digits ds hds _ =>
    obtain ⟨d, ds, rfl⟩ := List.exists_cons_of_ne_nil hds.1
    exact ⟨d, _, rfl, hds.2 d (by simp)⟩

theorem Numeral.eq_cons {v : Text} (h : Numeral v) :
    ∃ c t, v = some c :: t ∧ startsNumber (some c) = true := by
  cases h with
  | positive h =>
    obtain ⟨d, t, rfl, hd⟩ := h.eq_cons
    exact ⟨d, t, rfl, by simp [startsNumber, hd]⟩
  | negative h => exact ⟨'-', _, rfl, by decide⟩

theorem skipNumber_positive {c : Char} (hc : isDigit c = true) (s : Text) :
    skipNumber (some c :: s) = skipUnsigned (some c :: s) := by
  rw [skipNumber]
  rintro t ht
  cases ht
  cases hc

theorem skipNumber_numeral {v : Text} (h : Numeral v) {rest : Text} (hrest : Stops rest) :
    skipNumber (v ++ rest) = .ok rest := by
  cases h with
  | positive h =>
    obtain ⟨d, t, rfl, hd⟩ := h.eq_cons
    rw [List.cons_append, skipNumber_positive hd, ← List.cons_append]
    exact skipUnsigned_unsigned h hrest
  | negative h => exact skipUnsigned_unsigned h hrest

theorem unsigned_of_skip {v r : Text} (h : skipUnsigned (v ++ r) = .ok r) : Unsigned v := by
  obtain ⟨u, hu, hsame⟩ := skipUnsigned_ok h
  rwa [List.append_cancel_right hsame]

/-- A number that is read is one by the grammar, it is passed over as well, and nothing behind it
counts. -/
theorem scanNumber_ok {s r : Text} {m : Number} (h : scanNumber s = .ok (m, r)) :
    skipNumber s = .ok r ∧ ∃ v, Numeral v ∧ s = v ++ r ∧ ∀ rest, Stops rest →
      scanNumber (v ++ rest) = .ok (m, rest) := by
  unfold scanNumber at h
  split at h
  case h_1 =>
    obtain ⟨hskip, v, rfl, hagain⟩ := scanUnsigned_ok h
    exact ⟨hskip, some '-' :: v, .negative (unsigned_of_skip hskip), rfl, hagain⟩
  case h_2 hminus =>
    obtain ⟨hskip, v, rfl, hagain⟩ := scanUnsigned_ok h
    have hv := unsigned_of_skip hskip
    obtain ⟨d, t, rfl, hd⟩ := hv.eq_cons
    refine ⟨?_, some d :: t, .positive hv, rfl, fun rest hrest => ?_⟩
    · rw [List.cons_append, skipNumber_positive hd]
      exact hskip
    · rw [List.cons_append, scanNumber]
      · exact hagain rest hrest
      · rintro u hu
        cases hu
        cases hd

end Rollout.Json
