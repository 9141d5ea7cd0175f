import Rollout.Proofs.Json.Spelling

/-!
Readers and the grammar. An exact reader takes a value by the grammar and no more, and neither the
blanks in front of the value nor anything behind it count for what it gives. So what a text gives
that is a value can be said without its surroundings (`Exact.reads_iff`).
-/

namespace Rollout.Json

namespace Reader

structure Exact (read : Reader α) : Prop where
  front : ∀ depth (ws : Blanks) s, read depth (ws.text ++ s) = read depth s
  skips : ∀ depth s a r, read depth s = .ok (a, r) → skipValue s = .ok r
  alone : ∀ depth, Local (read depth)

/-- A value that stands by itself is read as this. -/
def Gives (read : Reader α) (depth : Nat) (v : Text) (a : α) : Prop := read depth v = .ok (a, [])

variable {read : Reader α}

theorem Exact.of_value
    (hfront : ∀ depth (ws : Blanks) s, read depth (ws.text ++ s) = read depth s)
    (h : ∀ depth s a r, read depth s = .ok (a, r) → skipValue s = .ok r ∧
      ∃ v, s = v ++ r ∧ ∀ rest, Stops rest → read depth (v ++ rest) = .ok (a, rest)) :
    read.Exact :=
  ⟨hfront, fun depth s a r hread => (h depth s a r hread).1,
    fun depth s a r hread => (h depth s a r hread).2⟩

theorem Gives.unique {depth : Nat} {v : Text} {a b : α} (ha : read.Gives depth v a)
    (hb : read.Gives depth v b) : a = b := by
  rw [Gives, ha] at hb
  cases hb
  rfl

theorem Exact.reads_iff (h : read.Exact) {v : Text} (hv : Spelled v) {rest : Text}
    (hrest : Stops rest) (ws : Blanks) (depth : Nat) (a : α) (r : Text) :
    read depth (ws.text ++ (v ++ rest)) = .ok (a, r) ↔ r = rest ∧ read.Gives depth v a := by
  rw [h.front]
  constructor
  · intro hread
    have hskip := skipValue_spelled hv .none hrest
    rw [Blanks.text_none, List.nil_append, h.skips _ _ _ _ hread] at hskip
    cases hskip
    obtain ⟨w, hw, hagain⟩ := h.alone _ _ _ _ hread
    have hgives := hagain [] stops_nil
    rw [List.append_nil, ← List.append_cancel_right hw] at hgives
    exact ⟨rfl, hgives⟩
  · rintro ⟨rfl, hgives⟩
    obtain ⟨w, hw, hagain⟩ := h.alone _ _ _ _ hgives
    rw [List.append_nil] at hw
    rw [hw]
    exact hagain r hrest

/-- What is read is a value with blanks in front of it. -/
theorem Exact.spelled (h : read.Exact) {depth : Nat} {s r : Text} {a : α}
    (hread : read depth s = .ok (a, r)) :
    ∃ (ws : Blanks) (v : Text), s = ws.text ++ (v ++ r) ∧ Spelled v :=
  skipValue_ok (h.skips _ _ _ _ hread)

theorem map_eq_ok {f : α → β} {depth : Nat} {s r : Text} {b : β} :
    read.map f depth s = .ok (b, r) ↔ ∃ a, read depth s = .ok (a, r) ∧ f a = b := by
  rw [Reader.map]
  cases read depth s with
  | error e => simp
  | ok found =>
    obtain ⟨a, t⟩ := found
    constructor
    · intro hb
      cases hb
      exact ⟨a, rfl, rfl⟩
    · rintro ⟨a', ha, rfl⟩
      cases ha
      rfl

theorem gives_map {f : α → β} {depth : Nat} {v : Text} {b : β} :
    (read.map f).Gives depth v b ↔ ∃ a, read.Gives depth v a ∧ f a = b := map_eq_ok

theorem Exact.map (h : read.Exact) (f : α → β) : (read.map f).Exact := by
  refine .of_value (fun depth ws s => ?_) fun depth s b r hread => ?_
  · simp only [Reader.map, h.front]
  obtain ⟨a, ha, hb⟩ := map_eq_ok.1 hread
  obtain ⟨w, hs, hagain⟩ := h.alone _ _ _ _ ha
  exact ⟨h.skips _ _ _ _ ha, w, hs, fun rest hrest => map_eq_ok.2 ⟨a, hagain rest hrest, hb⟩⟩

/-! ## Where values start -/

theorem atValue_front {body : Char → Text → Text → Except Fault (α × Text)} {c : Char}
    (hc : isBlank c = false) (depth : Nat) (ws : Blanks) (s : Text) :
    atValue body depth (ws.text ++ some c :: s) = body c s (some c :: s) :=
  atValue_some (skipBlank_front ws hc s)

theorem atValue_inv {body : Char → Text → Text → Except Fault (α × Text)} {depth : Nat}
    {s r : Text} {a : α} (h : atValue body depth s = .ok (a, r)) :
    ∃ (ws : Blanks) (c : Char) (t : Text), s = ws.text ++ some c :: t ∧ isBlank c = false ∧
      body c t (some c :: t) = .ok (a, r) := by
  cases hs : skipBlank s with
  | nil =>
    rw [atValue_nil hs] at h
    cases h
  | cons x t =>
    cases x with
    | none =>
      rw [atValue_none hs] at h
      cases h
    | some c =>
      rw [atValue_some hs] at h
      obtain ⟨ws, hws⟩ := skipBlank_eq hs
      exact ⟨ws, c, t, hws, not_blank_of_skipBlank hs, h⟩

/-- A reader that goes by the first character is exact if it is so from there. -/
theorem exact_atValue {body : Nat → Char → Text → Text → Except Fault (α × Text)}
    (h : ∀ depth c t a r, isBlank c = false → body depth c t (some c :: t) = .ok (a, r) →
      (∀ ws : Blanks, skipValue (ws.text ++ some c :: t) = .ok r) ∧
      ∃ v, t = v ++ r ∧ ∀ rest, Stops rest →
        body depth c (v ++ rest) (some c :: (v ++ rest)) = .ok (a, rest)) :
    Exact fun depth => atValue (body depth) depth := by
  refine .of_value (fun depth ws s => ?_) fun depth s a r hread => ?_
  · simp only [atValue, skipBlank_blanks]
  obtain ⟨ws, c, t, rfl, hc, hbody⟩ := atValue_inv hread
  obtain ⟨hskip, v, rfl, hagain⟩ := h _ _ _ _ _ hc hbody
  refine ⟨hskip ws, ws.text ++ some c :: v, by simp, fun rest hrest => ?_⟩
  rw [List.append_assoc, List.cons_append, atValue_front hc]
  exact hagain rest hrest

/-! ## Scalars -/

theorem skipValue_opening {s r : Text} (h : skipOpening s = .ok (none, r)) (ws : Blanks) :
    skipValue (ws.text ++ s) = .ok r :=
  skipValue_scalar ((skipOpening_blanks ws s).trans h)

theorem text_exact : Reader.text.Exact := by
  refine exact_atValue fun depth c t a r hc h => ?_
  split at h
  case isFalse => cases h
  case isTrue hquote =>
    subst hquote
    obtain ⟨body, rfl, hbody, hagain⟩ := readString_ok h
    refine ⟨skipValue_opening (skipOpening_text hbody r), body ++ [some '"'], by simp, ?_⟩
    intro rest _
    rw [if_pos rfl, List.append_assoc]
    exact hagain rest

/-- Numbers of some kind. -/
def ofNumber (pick : Number → Except Fault α) (expected : String) : Reader α := atValue fun c r s =>
  if startsNumber (some c) then
    match scanNumber s with
    | .ok (m, r) => (pick m).map (·, r)
    | .error e => .error e
  else .error (mismatch expected c r)

theorem ofNumber_exact (pick : Number → Except Fault α) (expected : String) :
    (ofNumber pick expected).Exact := by
  refine exact_atValue fun depth c t a r hc h => ?_
  split at h
  case isFalse => cases h
  case isTrue hstarts =>
    split at h
    case h_2 => cases h
    case h_1 m u hscan =>
      obtain ⟨b, hpick, hsame⟩ := map_ok h
      cases hsame
      obtain ⟨hskip, v, hv, heq, hagain⟩ := scanNumber_ok hscan
      obtain ⟨d, w, rfl, -⟩ := hv.eq_cons
      cases heq
      refine ⟨skipValue_opening ?_, w, rfl, fun rest hrest => ?_⟩
      · rw [skipOpening_number hstarts, hskip]
        rfl
      · have hscan' := hagain rest hrest
        rw [List.cons_append] at hscan'
        simp only [if_pos hstarts, hscan', hpick]
        rfl

/-- What `natural` makes of a number. -/
def naturalOf : Number → Except Fault Nat
  | .natural n => .ok n
  | .negative n => .error (.wrongValue n "u64")
  | .float bits => .error (.wrongType (.float bits) "u64")

theorem natural_exact : natural.Exact := by
  have heq : natural = ofNumber naturalOf "u64" := by
    unfold natural ofNumber
    congr 1
    funext c r s
    split
    case isFalse => rfl
    case isTrue =>
      cases scanNumber s with
      | error e => rfl
      | ok found =>
        obtain ⟨m, r⟩ := found
        cases m <;> rfl
  rw [heq]
  exact ofNumber_exact naturalOf "u64"

/-- What `integer` makes of a number. -/
def integerOf : Number → Except Fault Int
  | .natural n => if n < Nat.pow 2 63 then .ok n else .error (.wrongValue n "i64")
  | .negative n => .ok n
  | .float bits => .error (.wrongType (.float bits) "i64")

theorem integer_exact : integer.Exact := by
  have heq : integer = ofNumber integerOf "i64" := by
    unfold integer ofNumber
    congr 1
    funext c r s
    split
    case isFalse => rfl
    case isTrue =>
      cases scanNumber s with
      | error e => rfl
      | ok found =>
        obtain ⟨m, r⟩ := found
        cases m with
        | natural n =>
          simp only [integerOf]
          split <;> rfl
        | negative n => rfl
        | float bits => rfl
  rw [heq]
  exact ofNumber_exact integerOf "i64"

theorem literal_null (s r : Text) :
    literal ['u', 'l', 'l'] s = .ok r ↔ some 'n' :: s = Text.ofString "null" ++ r := by
  rw [literal_ok]
  exact ⟨fun h => congrArg _ h, fun h => (List.cons.inj h).2⟩

theorem option_none {depth : Nat} {s r : Text} (h : skipBlank s = Text.ofString "null" ++ r) :
    read.option depth s = .ok (none, r) := by
  have hskip : skipBlank s = some 'n' :: (['u', 'l', 'l'].map some ++ r) := h
  simp only [Reader.option, hskip, literal_ok.2 rfl, Except.map]

theorem option_some {depth : Nat} {s : Text} (h : ∀ r, skipBlank s ≠ some 'n' :: r) :
    read.option depth s = read.map some depth s := by
  rw [Reader.option]
  split
  case h_1 r hr => exact absurd hr (h r)
  case h_2 => rfl

theorem Exact.option (h : read.Exact) : read.option.Exact := by
  have hmap := h.map (some : α → Option α)
  have hfront : ∀ depth (ws : Blanks) s,
      read.option depth (ws.text ++ s) = read.option depth s := by
    intro depth ws s
    simp only [Reader.option, skipBlank_blanks, hmap.front]
  refine .of_value hfront fun depth s o r hread => ?_
  -- A value is null, or it is read as if there were no null.
  by_cases hnull : ∃ u, skipBlank s = some 'n' :: u
  · obtain ⟨u, hu⟩ := hnull
    rw [Reader.option, hu] at hread
    obtain ⟨t, ht, hsame⟩ := map_ok hread
    cases hsame
    rw [literal_null] at ht
    rw [ht] at hu
    obtain ⟨ws, rfl⟩ := skipBlank_eq hu
    refine ⟨skipValue_opening (skipOpening_word (by simp) r) ws, ws.text ++ Text.ofString "null",
      by rw [List.append_assoc], fun rest _ => ?_⟩
    rw [List.append_assoc, hfront]
    exact option_none rfl
  · have hother : ∀ u, skipBlank s ≠ some 'n' :: u := fun u hu => hnull ⟨u, hu⟩
    rw [option_some hother] at hread
    obtain ⟨ws, v, rfl, hv⟩ := hmap.spelled hread
    obtain ⟨w, hw, hagain⟩ := hmap.alone _ _ _ _ hread
    rw [← List.append_assoc] at hw
    obtain rfl : ws.text ++ v = w := List.append_cancel_right hw
    refine ⟨hmap.skips _ _ _ _ hread, ws.text ++ v, by rw [List.append_assoc], fun rest hrest => ?_⟩
    rw [option_some]
    · exact hagain rest hrest
    obtain ⟨c, t, rfl, hc⟩ := hv.eq_cons
    intro u hu
    rw [List.append_assoc, List.cons_append, skipBlank_front ws (not_blank_of_beginsValue hc)] at hu
    cases hu
    refine hother (t ++ r) ?_
    rw [List.cons_append, skipBlank_front ws (by decide)]

/-! ## Names -/

theorem colon_label (gap : Blanks) (s : Text) : colon (gap.text ++ some ':' :: s) = .ok s := by
  rw [colon, skipBlank_front gap (by decide)]
  rfl

theorem colon_ok {s r : Text} (h : colon s = .ok r) :
    ∃ gap : Blanks, s = gap.text ++ some ':' :: r := by
  unfold colon at h
  split at h
  case h_1 => cases h
  case h_2 x t ht =>
    split at h
    case isFalse => cases h
    case isTrue hx =>
      cases h
      subst hx
      exact skipBlank_eq ht

theorem enter_inv {body : Nat → Except Fault α} {depth : Nat} {a : α}
    (h : enter depth body = .ok a) : ∃ d, depth = d + 2 ∧ body (d + 1) = .ok a := by
  unfold enter at h
  split at h
  case h_1 d => exact ⟨d, rfl, h⟩
  case h_2 => cases h

/-- A name as the only key of an object, behind the opening bracket. -/
def keyed (known : String → Except Fault α) (depth : Nat) (s : Text) : Except Fault (α × Text) :=
  let key := atValue (fun c r _ =>
    if c = '"' then readString r else .error .keyNotString) depth s
  match key with
  | .error e => .error e
  | .ok (t, r) =>
    match known t with
    | .error e => .error e
    | .ok a =>
      match colon r with
      | .error e => .error e
      | .ok r =>
        match null depth r with
        | .error e => .error e
        | .ok (_, r) =>
          match skipBlank r with
          | [] => .error .endOfObject
          | x :: r => if x = some '}' then .ok (a, r) else .error .expectedValue

theorem null_blanks (depth : Nat) (ws : Blanks) (rest : Text) :
    null depth (ws.text ++ (Text.ofString "null" ++ rest)) = .ok ((), rest) := by
  have hvalue : null depth (ws.text ++ some 'n' :: (['u', 'l', 'l'].map some ++ rest)) =
      .ok ((), rest) := by
    rw [null, atValue_front (by decide), if_pos rfl, literal_ok.2 rfl]
    rfl
  exact hvalue

theorem null_ok {depth : Nat} {s r : Text} {x : Unit} (h : null depth s = .ok (x, r)) :
    ∃ ws : Blanks, s = ws.text ++ (Text.ofString "null" ++ r) := by
  obtain ⟨ws, c, t, rfl, -, hword⟩ := atValue_inv h
  split at hword
  case isFalse => cases hword
  case isTrue hnull =>
    subst hnull
    obtain ⟨u, hu, hsame⟩ := map_ok hword
    cases hsame
    exact ⟨ws, by rw [(literal_null t r).1 hu]⟩

/-- The entry of the name, with null as its value. -/
theorem keyed_ok {known : String → Except Fault α} {depth : Nat} {s r : Text} {a : α}
    (h : keyed known depth s = .ok (a, r)) :
    ∃ e : Entry .object, Spelled e.value ∧ s = between false [e] ++ some '}' :: r ∧
      ∀ rest, keyed known depth (between false [e] ++ some '}' :: rest) = .ok (a, rest) := by
  unfold keyed at h
  simp only at h
  split at h
  case h_1 => cases h
  case h_2 label afterKey hkey =>
    split at h
    case h_1 => cases h
    case h_2 b hknown =>
      split at h
      case h_1 => cases h
      case h_2 afterColon hcolon =>
        split at h
        case h_1 => cases h
        case h_2 afterNull hnull =>
          obtain ⟨trail, rfl, rfl⟩ : ∃ trail : Blanks, afterNull = trail.text ++ some '}' :: r ∧
              b = a := by
            split at h
            case h_1 => cases h
            case h_2 hclose =>
              split at h
              case isFalse => cases h
              case isTrue hx =>
                cases h
                subst hx
                obtain ⟨trail, htrail⟩ := skipBlank_eq hclose
                exact ⟨trail, htrail, rfl⟩
          obtain ⟨lead, c, t, rfl, -, hquote⟩ := atValue_inv hkey
          split at hquote
          case isFalse => cases hquote
          case isTrue hc =>
            subst hc
            obtain ⟨key, rfl, hinString, hagain⟩ := readString_ok hquote
            obtain ⟨gap, rfl⟩ := colon_ok hcolon
            obtain ⟨space, rfl⟩ := null_ok hnull
            refine ⟨⟨_, .object lead gap space hinString, Text.ofString "null", trail⟩,
              .word (by simp), by simp [between], fun rest => ?_⟩
            have hblank : isBlank '"' = false := by decide
            simp only [Bool.false_eq_true, if_false, List.nil_append, between,
              List.append_assoc, List.cons_append, keyed, atValue_front hblank, if_true, hagain,
              hknown, colon_label, null_blanks, skipBlank_front trail (c := '}') (by decide)]

theorem name_exact (known : String → Except Fault α) : (name known).Exact := by
  refine exact_atValue fun depth c t a r hc h => ?_
  split at h
  case isTrue hquote =>
    subst hquote
    split at h
    case h_1 => cases h
    case h_2 label u hread =>
      obtain ⟨b, hknown, hsame⟩ := map_ok h
      cases hsame
      obtain ⟨body, rfl, hbody, hagain⟩ := readString_ok hread
      refine ⟨skipValue_opening (skipOpening_text hbody r), body ++ [some '"'], by simp, ?_⟩
      intro rest _
      rw [if_pos rfl, List.append_assoc]
      simp only [List.cons_append, List.nil_append, hagain rest, hknown, Except.map]
  case isFalse hquote =>
    split at h
    case isFalse => cases h
    case isTrue hbrace =>
      subst hbrace
      obtain ⟨d, rfl, h⟩ := enter_inv h
      obtain ⟨e, he, rfl, hagain⟩ := keyed_ok h
      have hspelled : ∀ e' ∈ [e], Spelled e'.value := by simpa using he
      refine ⟨fun ws => ?_, between false [e] ++ [some '}'], by simp, fun rest _ => ?_⟩
      · have hskip := skipValue_compound hspelled .none ws r
        rw [compound_append, Blanks.text_none, List.nil_append] at hskip
        exact hskip
      · rw [if_neg hquote, if_pos rfl, List.append_assoc]
        exact hagain rest

/-! ## Whole texts -/

theorem run_eq_ok (h : read.Exact) {v : Text} (hv : Spelled v) (front back : Blanks) (a : α) :
    read.run (front.text ++ (v ++ back.text)) = .ok a ↔ read.Gives 128 v a := by
  have hstops : Stops back.text := by
    have hblanks := stops_nil.blanks back
    rwa [List.append_nil] at hblanks
  have hblank : skipBlank back.text = [] := by
    have hskip := skipBlank_blanks back []
    rwa [List.append_nil] at hskip
  have hreads := h.reads_iff hv hstops front 128
  rw [run]
  constructor
  · intro hrun
    split at hrun
    case h_1 => cases hrun
    case h_2 b r hread =>
      split at hrun
      case h_2 => cases hrun
      case h_1 =>
        cases hrun
        exact ((hreads _ _).1 hread).2
  · intro hgives
    rw [(hreads a back.text).2 ⟨rfl, hgives⟩]
    simp only [hblank]

end Reader
end Rollout.Json
