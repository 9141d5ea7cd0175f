import Rollout.Json.Skip
import Rollout.Proofs.Json.Reader

/-!
Blanks, words and strings as the grammar of JSON texts has them, beside what passes over them and
what reads them. Passing over takes exactly what the grammar allows; reading takes some of it, and
what it gives depends on nothing behind what it took.
-/

namespace Rollout.Json

/-! ## Blanks -/

/-- Blanks between the parts of a text. -/
structure Blanks where
  chars : List Char
  blank : ∀ c ∈ chars, isBlank c = true

namespace Blanks

def text (ws : Blanks) : Text := ws.chars.map some

def none : Blanks := ⟨[], by simp⟩

def cons (c : Char) (hc : isBlank c = true) (ws : Blanks) : Blanks :=
  ⟨c :: ws.chars, by simpa [hc] using ws.blank⟩

def append (front behind : Blanks) : Blanks :=
  ⟨front.chars ++ behind.chars, by
    intro c hc
    rcases List.mem_append.1 hc with hc | hc
    · exact front.blank c hc
    · exact behind.blank c hc⟩

theorem text_append (front behind : Blanks) :
    (append front behind).text = front.text ++ behind.text := List.map_append

theorem text_none : none.text = [] := rfl

theorem text_cons (c : Char) (hc : isBlank c = true) (ws : Blanks) :
    (cons c hc ws).text = some c :: ws.text := rfl

end Blanks

theorem skipBlank_blanks (ws : Blanks) (s : Text) : skipBlank (ws.text ++ s) = skipBlank s := by
  obtain ⟨chars, hblank⟩ := ws
  simp only [Blanks.text]
  induction chars with
  | nil => rfl
  | cons c cs ih =>
    have hc : isBlank c = true := hblank c (by simp)
    rw [List.map_cons, List.cons_append, skipBlank, if_pos hc]
    exact ih fun d hd => hblank d (by simp [hd])

/-- A text is its first blanks and what is behind them. -/
theorem exists_blanks (s : Text) : ∃ ws : Blanks, s = ws.text ++ skipBlank s := by
  fun_induction skipBlank s with
  | case1 c s hc ih =>
    obtain ⟨ws, hs⟩ := ih
    exact ⟨.cons c hc ws, by rw [Blanks.text_cons, List.cons_append, ← hs]⟩
  | case2 c s hc => exact ⟨.none, rfl⟩
  | case3 s _ => exact ⟨.none, rfl⟩

theorem skipBlank_eq {s t : Text} (h : skipBlank s = t) : ∃ ws : Blanks, s = ws.text ++ t := by
  obtain ⟨ws, hs⟩ := exists_blanks s
  exact ⟨ws, h ▸ hs⟩

theorem not_blank_of_skipBlank {s t : Text} {c : Char} (h : skipBlank s = some c :: t) :
    isBlank c = false := by
  fun_induction skipBlank s with
  | case1 d s hd ih => exact ih h
  | case2 d s hd =>
    cases h
    simpa using hd
  | case3 s hs => exact (hs c t h).elim

theorem skipBlank_cons {x : Scalar} (hx : ∀ c, x = some c → isBlank c = false) (s : Text) :
    skipBlank (x :: s) = x :: s := by
  cases x with
  | none => rfl
  | some c => rw [skipBlank, hx c rfl]; rfl

/-! ## What may follow -/

/-- The characters that carry a number on. -/
def carriesOn (c : Char) : Bool := isDigit c || c == '.' || c == 'e' || c == 'E'

/-- A number that stands in front of this text ends there. -/
def Stops (rest : Text) : Prop := ∀ c, rest.head? = some (some c) → carriesOn c = false

theorem stops_nil : Stops [] := by
  intro c hc
  cases hc

theorem stops_cons {c : Char} (hc : carriesOn c = false) (rest : Text) :
    Stops (some c :: rest) := by
  intro d hd
  cases hd
  exact hc

theorem Stops.blanks {rest : Text} (h : Stops rest) (ws : Blanks) : Stops (ws.text ++ rest) := by
  obtain ⟨chars, hblank⟩ := ws
  cases chars with
  | nil => exact h
  | cons c cs =>
    have hc : isBlank c = true := hblank c (by simp)
    refine stops_cons ?_ _
    simp only [isBlank, Bool.or_eq_true, beq_iff_eq] at hc
    rcases hc with ((rfl | rfl) | rfl) | rfl <;> decide

/-- What is read in front of a text does not depend on it, as long as it stops a number. -/
def Local (scan : Text → Except Fault (α × Text)) : Prop :=
  ∀ s a r, scan s = .ok (a, r) →
    ∃ v, s = v ++ r ∧ ∀ rest, Stops rest → scan (v ++ rest) = .ok (a, rest)

/-! ## Words -/

theorem literal_ok {cs : List Char} {s r : Text} :
    literal cs s = .ok r ↔ s = cs.map some ++ r := by
  fun_induction literal cs s with
  | case1 s => simp
  | case2 c cs => simp
  | case3 c cs s ih => simp [ih]
  | case4 c cs x s hx => simp [hx]

/-! ## Strings -/

/-- What may stand between two quotes. -/
inductive InString : Text → Prop
  | nil : InString []
  | plain {x : Scalar} {s : Text} : x ≠ some '"' → x ≠ some '\\' → isControl x = false →
      InString s → InString (x :: s)
  | escape {c : Char} {s : Text} : (unescape c).isSome → InString s →
      InString (some '\\' :: some c :: s)
  | code {a b c d : Scalar} {s : Text} : (hexCode a b c d).isSome → InString s →
      InString (some '\\' :: some 'u' :: a :: b :: c :: d :: s)

theorem skipString_inString {body : Text} (h : InString body) (r : Text) :
    skipString (body ++ some '"' :: r) = .ok r := by
  induction h with
  | nil => simp [skipString]
  | @plain x s hquote hbackslash hcontrol _ ih =>
    rw [List.cons_append, skipString]
    · simp only [hcontrol, Bool.false_eq_true, if_false, ih]
    all_goals simp_all
  | @escape c s hc _ ih =>
    unfold unescape at hc
    split at hc
    case h_9 => cases hc
    all_goals simpa [skipString, unescape] using ih
  | code hcode _ ih => simpa [skipString, hcode] using ih

/-- In front of a quote there is always something to escape. -/
theorem ne_of_more {x y : Scalar} {body r : Text}
    (h : ∀ z s, x = y → body ++ some '"' :: r = z :: s → False) : x ≠ y := by
  intro heq
  cases body with
  | nil => exact h _ _ heq rfl
  | cons z body => exact h _ _ heq rfl

theorem skipString_ok {s r : Text} (h : skipString s = .ok r) :
    ∃ body, s = body ++ some '"' :: r ∧ InString body := by
  fun_induction skipString s
  all_goals try cases h
  case case2.refl => exact ⟨[], rfl, .nil⟩
  case case3 a b c d s hcode ih =>
    obtain ⟨body, rfl, hbody⟩ := ih h
    exact ⟨_ :: _ :: a :: b :: c :: d :: body, rfl, .code hcode hbody⟩
  case case7 x s _ _ hx ih =>
    obtain ⟨body, rfl, hbody⟩ := ih h
    cases x with
    | none => cases hx
    | some c => exact ⟨_ :: some c :: body, rfl, .escape hx hbody⟩
  case case10 x s hquote _ _ hlast hescape hx ih =>
    obtain ⟨body, rfl, hbody⟩ := ih h
    have hbackslash : x ≠ some '\\' := ne_of_more hescape
    exact ⟨x :: body, rfl, .plain hquote hbackslash (by simpa using hx) hbody⟩

/-- A string that is read is one by the grammar, and nothing behind its quote counts. -/
theorem scanString_ok {s t r : Text} (h : scanString s = .ok (t, r)) :
    ∃ body, s = body ++ some '"' :: r ∧ InString body ∧
      ∀ rest, scanString (body ++ some '"' :: rest) = .ok (t, rest) := by
  fun_induction scanString s generalizing t r
  all_goals try cases h
  case case2.refl => exact ⟨[], rfl, .nil, fun rest => by simp [scanString]⟩
  case case6.refl a b c d n hn hlow hhigh e f g h s m hm hpair t r hs ih =>
    obtain ⟨body, rfl, hbody, hrest⟩ := ih hs
    refine ⟨_ :: _ :: a :: b :: c :: d :: _ :: _ :: e :: f :: g :: h :: body, rfl, ?_, ?_⟩
    · exact .code (by simp [hn]) (.code (by simp [hm]) hbody)
    · intro rest
      simp [scanString, hn, hlow, hhigh, hm, hpair, hrest rest]
  case case13.refl a b c d s n hn hlow hhigh t r hs ih =>
    obtain ⟨body, rfl, hbody, hrest⟩ := ih hs
    refine ⟨_ :: _ :: a :: b :: c :: d :: body, rfl, .code (by simp [hn]) hbody, ?_⟩
    intro rest
    simp [scanString, hn, hlow, hhigh, hrest rest]
  case case18.refl x s _ hletter c hc t r hs ih =>
    obtain ⟨body, rfl, hbody, hrest⟩ := ih hs
    cases x with
    | none => cases hc
    | some x =>
      have hx : unescape x = some c := hc
      have hcode : x ≠ 'u' := fun heq => hletter (congrArg some heq)
      refine ⟨_ :: some x :: body, rfl, .escape (by simp [hx]) hbody, ?_⟩
      intro rest
      rw [List.cons_append, List.cons_append, scanString]
      · simp [hx, hrest rest]
      · simp [hcode]
      · simp [hcode]
  case case21.refl x s hquote _ _ _ hescape hx t r hs ih =>
    obtain ⟨body, rfl, hbody, hrest⟩ := ih hs
    have hbackslash : x ≠ some '\\' := ne_of_more hescape
    refine ⟨x :: body, rfl, .plain hquote hbackslash (by simpa using hx) hbody, ?_⟩
    intro rest
    rw [List.cons_append, scanString]
    · simp [hx, hrest rest]
    all_goals simp_all

theorem readString_ok {s r : Text} {t : String} (h : readString s = .ok (t, r)) :
    ∃ body, s = body ++ some '"' :: r ∧ InString body ∧
      ∀ rest, readString (body ++ some '"' :: rest) = .ok (t, rest) := by
  unfold readString at h
  split at h
  case h_1 => cases h
  case h_2 u _ hscan =>
    split at h
    case h_2 => cases h
    case h_1 cs hcs =>
      cases h
      obtain ⟨body, hs, hbody, hrest⟩ := scanString_ok hscan
      exact ⟨body, hs, hbody, fun rest => by simp only [readString, hrest rest, hcs]⟩

end Rollout.Json
