import Rollout.Proofs.Json.Numeral

/-!
The grammar of JSON texts, apart from every program that reads them: `Spelled` says of a text that
it is one value, whatever its depth and whatever its strings and numbers stand for. What is passed
over is exactly a value by the grammar (`skipValue_spelled`, `skipValue_ok`).
-/

namespace Rollout.Json

/-! ## Values -/

def Bracket.opener : Bracket → Char
  | .list => '['
  | .object => '{'

/-- What stands in front of the value of an item: blanks in a list, and a key with its colon in an
object. -/
inductive Label : Bracket → Text → Prop
  | list (lead : Blanks) : Label .list lead.text
  | object (lead gap space : Blanks) {key : Text} : InString key → Label .object
      (lead.text ++ some '"' :: (key ++ some '"' :: (gap.text ++ some ':' :: space.text)))

/-- An item between brackets, with the blanks behind it. -/
structure Entry (b : Bracket) where
  label : Text
  isLabel : Label b label
  value : Text
  trail : Blanks

/-- Items as they stand behind the opening bracket, or behind an item. -/
def between {b : Bracket} (afterItem : Bool) : List (Entry b) → Text
  | [] => []
  | e :: es =>
    (if afterItem then [some ','] else []) ++
      (e.label ++ (e.value ++ (e.trail.text ++ between true es)))

/-- A list or an object. -/
def compound (b : Bracket) (pad : Blanks) (es : List (Entry b)) : Text :=
  some b.opener :: (pad.text ++ (between false es ++ [some b.closer]))

inductive Spelled : Text → Prop
  | word {w : String} : w ∈ ["null", "true", "false"] → Spelled (Text.ofString w)
  | number {v : Text} : Numeral v → Spelled v
  | text {body : Text} : InString body → Spelled (some '"' :: (body ++ [some '"']))
  | compound {b : Bracket} (pad : Blanks) {es : List (Entry b)} :
      (∀ e ∈ es, Spelled e.value) → Spelled (compound b pad es)

theorem compound_append (b : Bracket) (pad : Blanks) (es : List (Entry b)) (rest : Text) :
    compound b pad es ++ rest =
      some b.opener :: (pad.text ++ (between false es ++ some b.closer :: rest)) := by
  simp [compound]

theorem between_cons_append {b : Bracket} (afterItem : Bool) (e : Entry b) (es : List (Entry b))
    (rest : Text) :
    between afterItem (e :: es) ++ rest =
      (if afterItem then [some ','] else []) ++
        (e.label ++ (e.value ++ (e.trail.text ++ (between true es ++ rest)))) := by
  simp [between]

/-- The first character of a value. -/
def beginsValue (c : Char) : Bool := opensValue c || c == 'n' || c == 't' || c == 'f'

theorem Spelled.eq_cons {v : Text} (h : Spelled v) :
    ∃ c t, v = some c :: t ∧ beginsValue c = true := by
  cases h with
  | word hw =>
    simp only [List.mem_cons, List.not_mem_nil, or_false] at hw
    rcases hw with rfl | rfl | rfl <;> exact ⟨_, _, rfl, by decide⟩
  | number h =>
    obtain ⟨c, t, rfl, hc⟩ := h.eq_cons
    exact ⟨c, t, rfl, by simp [beginsValue, opensValue_of_startsNumber hc]⟩
  | text h => exact ⟨'"', _, rfl, by decide⟩
  | @compound b pad es h => exact ⟨b.opener, _, rfl, by cases b <;> decide⟩

theorem beginsValue_ne {c d : Char} (h : beginsValue c = true) (hd : beginsValue d = false) :
    c ≠ d := by
  rintro rfl
  rw [h] at hd
  cases hd

theorem not_blank_of_beginsValue {c : Char} (h : beginsValue c = true) : isBlank c = false := by
  simp [isBlank, beginsValue_ne h (d := ' ') (by decide), beginsValue_ne h (d := '\n') (by decide),
    beginsValue_ne h (d := '\t') (by decide), beginsValue_ne h (d := '\r') (by decide)]

/-- Blanks do not hide what stands behind them. -/
theorem skipBlank_front (ws : Blanks) {c : Char} (hc : isBlank c = false) (s : Text) :
    skipBlank (ws.text ++ some c :: s) = some c :: s := by
  rw [skipBlank_blanks]
  exact skipBlank_cons (by rintro d ⟨⟩; exact hc) s

/-! ## Values that are passed over -/

theorem skipOpening_blanks (ws : Blanks) (s : Text) :
    skipOpening (ws.text ++ s) = skipOpening s := by
  simp only [skipOpening, skipBlank_blanks]

theorem skipOpening_word {w : String} (hw : w ∈ ["null", "true", "false"]) (rest : Text) :
    skipOpening (Text.ofString w ++ rest) = .ok (none, rest) := by
  simp only [List.mem_cons, List.not_mem_nil, or_false] at hw
  rcases hw with rfl | rfl | rfl <;> rfl

theorem skipOpening_number {c : Char} (hc : startsNumber (some c) = true) (s : Text) :
    skipOpening (some c :: s) = (skipNumber (some c :: s)).map (none, ·) := by
  by_cases hminus : c = '-'
  · subst hminus
    rfl
  have hdigit : isDigit c = true := by simpa [startsNumber, hminus] using hc
  have hblank : skipBlank (some c :: s) = some c :: s :=
    skipBlank_opensValue (opensValue_of_startsNumber hc) s
  rw [skipNumber_positive hdigit, skipOpening, hblank]
  split
  case h_9 heq =>
    cases heq
    rw [if_pos hdigit]
  all_goals
    rename_i heq
    cases heq
  -- No other value begins with a digit.
  all_goals cases hdigit

theorem skipOpening_text {body : Text} (h : InString body) (rest : Text) :
    skipOpening (some '"' :: (body ++ some '"' :: rest)) = .ok (none, rest) := by
  have hskip := skipString_inString h rest
  show (skipString (body ++ some '"' :: rest)).map (none, ·) = _
  rw [hskip]
  rfl

theorem skipOpening_bracket (b : Bracket) (s : Text) :
    skipOpening (some b.opener :: s) = .ok (some b, s) := by
  cases b <;> rfl

theorem skipKey_label (lead gap : Blanks) {key : Text} (h : InString key) (s : Text) :
    skipKey (lead.text ++ some '"' :: (key ++ some '"' :: (gap.text ++ some ':' :: s))) =
      .ok s := by
  have hskip := skipString_inString h (gap.text ++ some ':' :: s)
  have hquote := skipBlank_front lead (show isBlank '"' = false by decide)
    (key ++ some '"' :: (gap.text ++ some ':' :: s))
  have hcolon := skipBlank_front gap (show isBlank ':' = false by decide) s
  simp only [skipKey, hquote, hskip, hcolon]

theorem turn_blanks (b : Bracket) (afterItem : Bool) (ws : Blanks) (s : Text) :
    turn b afterItem (ws.text ++ s) = turn b afterItem s := by
  simp only [turn, skipBlank_blanks]

theorem turn_close (b : Bracket) (afterItem : Bool) (ws : Blanks) (s : Text) :
    turn b afterItem (ws.text ++ some b.closer :: s) = .ok (.close s) := by
  rw [turn, skipBlank_front ws (by cases b <;> decide)]
  cases b <;> cases afterItem <;> rfl

theorem turn_comma (b : Bracket) (ws : Blanks) (s : Text) :
    turn b true (ws.text ++ some ',' :: s) = .ok (.next s) := by
  rw [turn, skipBlank_front ws (by decide)]
  rfl

theorem turn_first (b : Bracket) (ws : Blanks) {c : Char} (hc : beginsValue c = true) (s : Text) :
    turn b false (ws.text ++ some c :: s) = .ok (.next (some c :: s)) := by
  have hcloser : c ≠ b.closer := by cases b <;> exact beginsValue_ne hc (by decide)
  rw [turn, skipBlank_front ws (not_blank_of_beginsValue hc)]
  simp [hcloser]

/-- So many steps lead from in front of the value to behind it. -/
def Passes (v : Text) (steps : Nat) : Prop :=
  ∀ more open' (ws : Blanks) rest, Stops rest →
    skipFrom (more + steps) open' .item (ws.text ++ (v ++ rest)) =
      skipFrom more open' (.behind true) rest

theorem passes_scalar {v : Text} (hv : Spelled v)
    (h : ∀ rest, Stops rest → skipOpening (v ++ rest) = .ok (none, rest)) :
    ∃ steps, steps + 1 ≤ 2 * v.length ∧ Passes v steps := by
  obtain ⟨c, t, rfl, -⟩ := hv.eq_cons
  refine ⟨1, by simp only [List.length_cons]; omega, fun more open' ws rest hrest => ?_⟩
  rw [skipFrom, skipOpening_blanks, h rest hrest]

/-- Behind a value between brackets there is a blank, a comma or the closing bracket. -/
theorem stops_between {b : Bracket} (trail : Blanks) (es : List (Entry b)) (rest : Text) :
    Stops (trail.text ++ (between true es ++ some b.closer :: rest)) := by
  refine Stops.blanks ?_ trail
  cases es with
  | nil => exact stops_cons (by cases b <;> decide) rest
  | cons e es =>
    rw [between_cons_append]
    exact stops_cons (by decide) _

/-- One step leads from behind an item, or from the opening bracket, to the next value. -/
theorem skipFrom_label {b : Bracket} {label : Text} (hlabel : Label b label) {c : Char}
    (hc : beginsValue c = true) (afterItem : Bool) (more : Nat) (open' : List Bracket)
    (ws : Blanks) (s : Text) :
    ∃ lead : Blanks,
      skipFrom (more + 1) (b :: open') (.behind afterItem)
          (ws.text ++ ((if afterItem then [some ','] else []) ++ (label ++ some c :: s))) =
        skipFrom more (b :: open') .item (lead.text ++ some c :: s) := by
  cases hlabel with
  | list lead =>
    cases afterItem with
    | false =>
      refine ⟨.none, ?_⟩
      simp only [Bool.false_eq_true, if_false, List.nil_append, skipFrom, turn_blanks,
        turn_first _ _ hc, Blanks.text_none]
    | true =>
      refine ⟨lead, ?_⟩
      simp only [if_true, List.cons_append, List.nil_append, skipFrom, turn_comma]
  | object lead gap space hkey =>
    refine ⟨space, ?_⟩
    simp only [List.append_assoc, List.cons_append]
    cases afterItem with
    | false =>
      have hquote : beginsValue '"' = true := by decide
      have hlabel := skipKey_label .none gap hkey (space.text ++ some c :: s)
      rw [Blanks.text_none, List.nil_append] at hlabel
      simp only [Bool.false_eq_true, if_false, List.nil_append, skipFrom, turn_blanks,
        turn_first _ _ hquote, hlabel]
    | true =>
      have hlabel := skipKey_label lead gap hkey (space.text ++ some c :: s)
      simp only [if_true, List.cons_append, List.nil_append, skipFrom, turn_comma, hlabel]

/-- The steps from the opening bracket, or from behind an item, to behind the closing bracket. -/
theorem passes_between {b : Bracket} {es : List (Entry b)}
    (h : ∀ e ∈ es, Spelled e.value ∧ ∃ steps, steps + 1 ≤ 2 * e.value.length ∧
      Passes e.value steps) :
    ∀ afterItem, ∃ steps, steps ≤ 2 * (between afterItem es).length + 1 ∧
      ∀ more open' (ws : Blanks) rest,
        skipFrom (more + steps) (b :: open') (.behind afterItem)
            (ws.text ++ (between afterItem es ++ some b.closer :: rest)) =
          skipFrom more open' (.behind true) rest := by
  induction es with
  | nil =>
    intro afterItem
    refine ⟨1, by omega, fun more open' ws rest => ?_⟩
    rw [between, List.nil_append, skipFrom, turn_close]
  | cons e es ih =>
    intro afterItem
    obtain ⟨hspelled, steps, hsteps, hpasses⟩ := h e (by simp)
    obtain ⟨others, hothers, hlater⟩ := ih (fun e' he' => h e' (by simp [he'])) true
    refine ⟨others + steps + 1, ?_, fun more open' ws rest => ?_⟩
    · simp only [between, List.length_append]
      omega
    · obtain ⟨c, t, hv, hc⟩ := hspelled.eq_cons
      have hstops := stops_between e.trail es rest
      have hmore : more + (others + steps + 1) = more + others + steps + 1 := by omega
      rw [between_cons_append, hmore]
      -- The value, and what is behind it.
      generalize htail : e.trail.text ++ (between true es ++ some b.closer :: rest) = tail at hstops
      have hfirst : e.value ++ tail = some c :: (t ++ tail) := by rw [hv, List.cons_append]
      obtain ⟨lead, hlabel⟩ := skipFrom_label e.isLabel hc afterItem (more + others + steps) open'
        ws (t ++ tail)
      rw [hfirst, hlabel, ← hfirst, hpasses _ _ lead tail hstops, ← htail]
      exact hlater more open' e.trail rest

/-- A list or an object ends with its bracket, whatever follows. -/
theorem compound_passes {b : Bracket} {es : List (Entry b)} (pad : Blanks)
    (h : ∀ e ∈ es, Spelled e.value ∧ ∃ steps, steps + 1 ≤ 2 * e.value.length ∧
      Passes e.value steps) :
    ∃ steps, steps + 1 ≤ 2 * (compound b pad es).length ∧ ∀ more open' (ws : Blanks) rest,
      skipFrom (more + steps) open' .item (ws.text ++ (compound b pad es ++ rest)) =
        skipFrom more open' (.behind true) rest := by
  obtain ⟨steps, hsteps, hpasses⟩ := passes_between h false
  refine ⟨steps + 1, ?_, fun more open' ws rest => ?_⟩
  · simp only [compound, List.length_cons, List.length_append, List.length_nil]
    omega
  · rw [← Nat.add_assoc, skipFrom, skipOpening_blanks, compound_append, skipOpening_bracket]
    exact hpasses more open' pad rest

theorem Spelled.passes {v : Text} (h : Spelled v) :
    ∃ steps, steps + 1 ≤ 2 * v.length ∧ Passes v steps := by
  induction h with
  | word hw => exact passes_scalar (.word hw) fun rest _ => skipOpening_word hw rest
  | @number v h =>
    refine passes_scalar (.number h) fun rest hrest => ?_
    obtain ⟨c, t, rfl, hc⟩ := h.eq_cons
    have hskip := skipNumber_numeral h hrest
    rw [List.cons_append] at hskip ⊢
    rw [skipOpening_number hc, hskip]
    rfl
  | @text body h =>
    refine passes_scalar (.text h) fun rest _ => ?_
    rw [List.cons_append, List.append_assoc]
    exact skipOpening_text h rest
  | @compound b pad es hes ih =>
    obtain ⟨steps, hsteps, hpasses⟩ := compound_passes pad fun e he => ⟨hes e he, ih e he⟩
    exact ⟨steps, hsteps, fun more open' ws rest _ => hpasses more open' ws rest⟩

theorem skipValue_steps {ws : Blanks} {v rest : Text} {steps : Nat}
    (hsteps : steps + 1 ≤ 2 * v.length)
    (h : ∀ more, skipFrom (more + steps) [] .item (ws.text ++ (v ++ rest)) =
      skipFrom more [] (.behind true) rest) :
    skipValue (ws.text ++ (v ++ rest)) = .ok rest := by
  obtain ⟨more, hmore⟩ : ∃ more, 2 * (ws.text ++ (v ++ rest)).length + 2 = more + 1 + steps := by
    refine ⟨2 * (ws.text ++ (v ++ rest)).length + 1 - steps, ?_⟩
    simp only [List.length_append]
    omega
  rw [skipValue, hmore, h, skipFrom]

/-- A value is passed over if what follows does not carry it on. -/
theorem skipValue_spelled {v : Text} (h : Spelled v) (ws : Blanks) {rest : Text}
    (hrest : Stops rest) : skipValue (ws.text ++ (v ++ rest)) = .ok rest := by
  obtain ⟨steps, hsteps, hpasses⟩ := h.passes
  exact skipValue_steps hsteps fun more => hpasses more [] ws rest hrest

theorem skipValue_compound {b : Bracket} {es : List (Entry b)} (h : ∀ e ∈ es, Spelled e.value)
    (pad ws : Blanks) (rest : Text) :
    skipValue (ws.text ++ (compound b pad es ++ rest)) = .ok rest := by
  obtain ⟨steps, hsteps, hpasses⟩ := compound_passes pad fun e he => ⟨h e he, (h e he).passes⟩
  exact skipValue_steps hsteps fun more => hpasses more [] ws rest

theorem skipValue_scalar {s rest : Text} (h : skipOpening s = .ok (none, rest)) :
    skipValue s = .ok rest := by
  rw [skipValue, skipFrom, h]
  rfl

/-! ## What is passed over -/

/-- A scalar that is passed over, or the bracket of a list or an object. -/
theorem skipOpening_ok {s r : Text} {o : Option Bracket} (h : skipOpening s = .ok (o, r)) :
    (o = none ∧ ∃ ws v, s = Blanks.text ws ++ (v ++ r) ∧ Spelled v) ∨
      ∃ b ws, o = some b ∧ s = Blanks.text ws ++ some b.opener :: r := by
  have hscalar : ∀ t (skipped : Except Fault Text), skipBlank s = t →
      skipped.map (none, ·) = Except.ok (o, r) →
      (skipped = .ok r → ∃ v, t = v ++ r ∧ Spelled v) →
      o = none ∧ ∃ ws v, s = Blanks.text ws ++ (v ++ r) ∧ Spelled v := by
    intro t skipped ht hmap hvalue
    obtain ⟨r', hr, hsame⟩ := map_ok hmap
    cases hsame
    obtain ⟨ws, hs⟩ := skipBlank_eq ht
    obtain ⟨v, rfl, hv⟩ := hvalue hr
    exact ⟨rfl, ws, v, hs, hv⟩
  unfold skipOpening at h
  split at h
  case h_1 => cases h
  case h_2 ht =>
    refine .inl (hscalar _ _ ht h fun hr => ?_)
    exact ⟨_, congrArg _ (literal_ok.1 hr), .word (w := "null") (by simp)⟩
  case h_3 ht =>
    refine .inl (hscalar _ _ ht h fun hr => ?_)
    exact ⟨_, congrArg _ (literal_ok.1 hr), .word (w := "true") (by simp)⟩
  case h_4 ht =>
    refine .inl (hscalar _ _ ht h fun hr => ?_)
    exact ⟨_, congrArg _ (literal_ok.1 hr), .word (w := "false") (by simp)⟩
  case h_5 ht =>
    refine .inl (hscalar _ _ ht h fun hr => ?_)
    obtain ⟨v, hv, rfl⟩ := skipUnsigned_ok hr
    exact ⟨_, rfl, .number (.negative hv)⟩
  case h_6 ht =>
    refine .inl (hscalar _ _ ht h fun hr => ?_)
    obtain ⟨body, rfl, hbody⟩ := skipString_ok hr
    exact ⟨_, by simp, .text hbody⟩
  case h_7 ht =>
    cases h
    obtain ⟨ws, hs⟩ := skipBlank_eq ht
    exact .inr ⟨.list, ws, rfl, hs⟩
  case h_8 ht =>
    cases h
    obtain ⟨ws, hs⟩ := skipBlank_eq ht
    exact .inr ⟨.object, ws, rfl, hs⟩
  case h_9 c t _ _ _ _ _ _ _ ht =>
    split at h
    case isFalse => cases h
    case isTrue hc =>
      refine .inl (hscalar _ _ ht h fun hr => ?_)
      obtain ⟨v, hv, hsame⟩ := skipUnsigned_ok hr
      exact ⟨v, hsame, .number (.positive hv)⟩
  case h_10 => cases h

theorem turn_ok_close {b : Bracket} {afterItem : Bool} {s r : Text}
    (h : turn b afterItem s = .ok (.close r)) :
    ∃ ws, s = Blanks.text ws ++ some b.closer :: r := by
  unfold turn at h
  split at h
  case h_1 => cases h
  case h_2 x t ht =>
    split at h
    · cases h
    split at h
    case isTrue hx =>
      cases h
      obtain ⟨ws, hs⟩ := skipBlank_eq ht
      exact ⟨ws, by rw [hs, beq_iff_eq.1 hx]⟩
    case isFalse => split at h <;> cases h

theorem turn_ok_next {b : Bracket} {afterItem : Bool} {s r : Text}
    (h : turn b afterItem s = .ok (.next r)) :
    ∃ ws, s = Blanks.text ws ++ ((if afterItem then [some ','] else []) ++ r) := by
  unfold turn at h
  split at h
  case h_1 => cases h
  case h_2 x t ht =>
    obtain ⟨ws, hs⟩ := skipBlank_eq ht
    split at h
    case isTrue hcomma =>
      cases h
      obtain ⟨hafter, hx⟩ := Bool.and_eq_true_iff.1 hcomma
      exact ⟨ws, by rw [hs, if_pos hafter, beq_iff_eq.1 hx]; rfl⟩
    case isFalse =>
      split at h
      · cases h
      split at h
      case isTrue => cases h
      case isFalse hfirst =>
        cases h
        exact ⟨ws, by rw [hs, if_neg hfirst]; rfl⟩

theorem skipKey_ok {s r : Text} (h : skipKey s = .ok r) :
    ∃ (lead gap : Blanks) (key : Text), InString key ∧
      s = lead.text ++ some '"' :: (key ++ some '"' :: (gap.text ++ some ':' :: r)) := by
  unfold skipKey at h
  split at h
  case h_1 => cases h
  case h_3 => cases h
  case h_2 t ht =>
    split at h
    case h_1 => cases h
    case h_2 u hu =>
      obtain ⟨lead, hlead⟩ := skipBlank_eq ht
      obtain ⟨key, hkey, hinString⟩ := skipString_ok hu
      split at h
      case h_1 => cases h
      case h_3 => cases h
      case h_2 hcolon =>
        cases h
        obtain ⟨gap, hgap⟩ := skipBlank_eq hcolon
        exact ⟨lead, gap, key, hinString, by rw [hlead, hkey, hgap]⟩

/-- From in front of a value, so many steps that end well have passed it at some point. -/
def PassValue (steps : Nat) : Prop :=
  ∀ open' s r, skipFrom steps open' .item s = .ok r →
    ∃ (ws : Blanks) (v rest : Text) (fewer : Nat), fewer < steps ∧ s = ws.text ++ (v ++ rest) ∧
      Spelled v ∧ skipFrom fewer open' (.behind true) rest = .ok r

/-- From inside brackets, they have passed the closing one. -/
def PassItems (steps : Nat) : Prop :=
  ∀ b open' afterItem s r, skipFrom steps (b :: open') (.behind afterItem) s = .ok r →
    ∃ (pad : Blanks) (es : List (Entry b)) (rest : Text) (fewer : Nat), fewer < steps ∧
      s = pad.text ++ (between afterItem es ++ some b.closer :: rest) ∧
      (∀ e ∈ es, Spelled e.value) ∧ skipFrom fewer open' (.behind true) rest = .ok r

theorem passValue_succ {steps : Nat} (hitems : PassItems steps) : PassValue (steps + 1) := by
  intro open' s r h
  rw [skipFrom] at h
  split at h
  case h_1 => cases h
  case h_2 b t hopening =>
    obtain ⟨hnone, -⟩ | ⟨_, ws, hb, hs⟩ := skipOpening_ok hopening
    · cases hnone
    cases hb
    obtain ⟨pad, es, rest, fewer, hfewer, rfl, hes, hrest⟩ := hitems _ _ _ _ _ h
    refine ⟨ws, compound b pad es, rest, fewer, by omega, ?_, .compound pad hes, hrest⟩
    rw [hs, compound_append]
  case h_3 t hopening =>
    obtain ⟨-, ws, v, hs, hv⟩ | ⟨_, _, hb, -⟩ := skipOpening_ok hopening
    · exact ⟨ws, v, t, steps, by omega, hs, hv, h⟩
    · cases hb

theorem passItems_succ {steps : Nat} (hvalue : PassValue steps)
    (hitems : ∀ fewer < steps, PassItems fewer) : PassItems (steps + 1) := by
  intro b open' afterItem s r h
  -- A label leads to a value and the other items.
  have hitem : ∀ t u, skipFrom steps (b :: open') .item u = .ok r →
      (∀ (front : Blanks) w, u = front.text ++ w → ∃ label, Label b label ∧ t = label ++ w) →
      ∃ (es : List (Entry b)) (rest : Text) (fewer : Nat), fewer < steps ∧
        (if afterItem then [some ','] else []) ++ t =
          between afterItem es ++ some b.closer :: rest ∧
        (∀ e ∈ es, Spelled e.value) ∧ skipFrom fewer open' (.behind true) rest = .ok r := by
    intro t u hu hlabel
    obtain ⟨ws, v, rest, fewer, hfewer, hwhole, hv, hrest⟩ := hvalue _ _ _ hu
    obtain ⟨trail, es, last, still, hstill, rfl, hes, hlast⟩ := hitems fewer hfewer _ _ _ _ _ hrest
    obtain ⟨label, hlabelled, rfl⟩ := hlabel ws _ hwhole
    refine ⟨⟨label, hlabelled, v, trail⟩ :: es, last, still, by omega, ?_, ?_, hlast⟩
    · rw [between_cons_append]
    · simpa [hv] using hes
  rw [skipFrom] at h
  split at h
  case h_1 => cases h
  case h_2 t hturn =>
    obtain ⟨ws, hs⟩ := turn_ok_close hturn
    exact ⟨ws, [], t, steps, by omega, hs, by simp, h⟩
  case h_3 t hturn =>
    obtain ⟨ws, hs⟩ := turn_ok_next hturn
    suffices hmore : ∃ u, skipFrom steps (b :: open') .item u = .ok r ∧
        ∀ (front : Blanks) w, u = front.text ++ w → ∃ label, Label b label ∧ t = label ++ w by
      obtain ⟨u, hu, hlabel⟩ := hmore
      obtain ⟨es, rest, fewer, hfewer, hes, hspelled, hrest⟩ := hitem t u hu hlabel
      exact ⟨ws, es, rest, fewer, by omega, by rw [hs, hes], hspelled, hrest⟩
    cases b with
    | list => exact ⟨t, h, fun front w hw => ⟨front.text, .list front, hw⟩⟩
    | object =>
      simp only at h
      split at h
      case h_1 => cases h
      case h_2 u hkey =>
        obtain ⟨lead, gap, key, hinString, rfl⟩ := skipKey_ok hkey
        refine ⟨u, h, ?_⟩
        rintro front w rfl
        exact ⟨_, .object lead gap front hinString, by simp⟩

theorem pass_steps (steps : Nat) : PassValue steps ∧ PassItems steps := by
  induction steps using Nat.strongRecOn with
  | ind steps ih =>
    cases steps with
    | zero =>
      refine ⟨?_, ?_⟩
      · intro open' s r h
        cases h
      · intro b open' afterItem s r h
        cases h
    | succ steps =>
      obtain ⟨hvalue, hitems⟩ := ih steps (by omega)
      exact ⟨passValue_succ hitems,
        passItems_succ hvalue fun fewer hfewer => (ih fewer (by omega)).2⟩

/-- What is passed over is a value. -/
theorem skipValue_ok {s r : Text} (h : skipValue s = .ok r) :
    ∃ (ws : Blanks) (v : Text), s = ws.text ++ (v ++ r) ∧ Spelled v := by
  obtain ⟨ws, v, rest, fewer, -, hs, hv, hrest⟩ := (pass_steps _).1 _ _ _ h
  cases fewer with
  | zero => cases hrest
  | succ fewer =>
    cases hrest
    exact ⟨ws, v, hs, hv⟩

/-! ## Values that are written -/

theorem inString_escaped (s : String) : InString ((s.toList.flatMap escape).map some) := by
  obtain ⟨body, hbody, hinString, -⟩ := readString_ok (readString_escaped s [])
  rwa [List.append_cancel_right hbody]

theorem map_text (s : String) :
    (Print.text s).map some =
      some '"' :: ((s.toList.flatMap escape).map some ++ [some '"']) := by
  simp [Print.text]

theorem spelled_text (s : String) : Spelled ((Print.text s).map some) := by
  rw [map_text]
  exact .text (inString_escaped s)

/-- Entries that are written without blanks behind them. -/
theorem between_written {b : Bracket} {print : α → List Char} {entry : α → Entry b}
    (h : ∀ x, (print x).map some = (entry x).label ++ (entry x).value ∧ (entry x).trail = .none)
    (afterItem : Bool) (xs : List α) :
    (Print.between afterItem (xs.map print)).map some = between afterItem (xs.map entry) := by
  induction xs generalizing afterItem with
  | nil => rw [List.map_nil, Print.between_nil]; rfl
  | cons x xs ih =>
    obtain ⟨hprint, htrail⟩ := h x
    rw [List.map_cons, Print.between_cons, List.map_cons, between, htrail, ← ih]
    cases afterItem <;> simp [hprint, Blanks.text_none]

theorem spelled_list {print : α → List Char} {xs : List α}
    (h : ∀ x ∈ xs, Spelled ((print x).map some)) : Spelled ((Print.list print xs).map some) := by
  have hitems := @between_written α .list print
    (fun x => ⟨[], .list .none, (print x).map some, .none⟩) (fun _ => ⟨rfl, rfl⟩) false xs
  have hlist := Print.map_list print xs []
  rw [List.append_nil, hitems] at hlist
  rw [hlist]
  refine @Spelled.compound .list .none _ fun e he => ?_
  obtain ⟨x, hx, rfl⟩ := List.mem_map.1 he
  exact h x hx

theorem spelled_written {ms : List (String × List Char)}
    (h : ∀ m ∈ ms, Spelled (m.2.map some)) :
    Spelled ((Print.object (ms.map fun m => Print.member m.1 m.2)).map some) := by
  have hentries := @between_written _ .object (fun m : String × List Char => Print.member m.1 m.2)
    (fun m => ⟨_, .object .none .none .none (inString_escaped m.1), m.2.map some, .none⟩)
    (fun m => ⟨by simp [Print.member, map_text, Blanks.text_none], rfl⟩) false ms
  have hobject : (Print.object (ms.map fun m => Print.member m.1 m.2)).map some =
      some '{' :: ((Print.between false (ms.map fun m => Print.member m.1 m.2)).map some ++
        [some '}']) := by
    simp [Print.object, Print.between]
  rw [hobject, hentries]
  refine @Spelled.compound .object .none _ fun e he => ?_
  obtain ⟨m, hm, rfl⟩ := List.mem_map.1 he
  exact h m hm

end Rollout.Json
