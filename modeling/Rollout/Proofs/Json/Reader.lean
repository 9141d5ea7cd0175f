import Mathlib.Data.List.Forall2
import Rollout.Json.Reader
import Rollout.Proofs.Json.Scalar

/-!
Laws of readers. `Yields` says what every value is like that a reader gives, and `Reads` that a
reader takes a printed text as a value. There is a law of both kinds for every way to build a
reader.
-/

namespace Rollout.Json

theorem map_ok {x : Except Fault α} {f : α → β} {b : β} (h : x.map f = .ok b) :
    ∃ a, x = .ok a ∧ f a = b := by
  cases x with
  | error e => cases h
  | ok a =>
    cases h
    exact ⟨a, rfl, rfl⟩

theorem bind_ok {x : Except Fault α} {f : α → Except Fault β} {b : β} (h : x.bind f = .ok b) :
    ∃ a, x = .ok a ∧ f a = .ok b := by
  cases x with
  | error e => cases h
  | ok a => exact ⟨a, rfl, h⟩

/-! ## What readers give -/

/-- Every value that is read has the property. -/
def Reader.Yields (read : Reader α) (P : α → Prop) : Prop :=
  ∀ depth s a r, read depth s = .ok (a, r) → P a

namespace Reader

variable {read : Reader α} {P : α → Prop}

theorem any_yields (read : Reader α) : read.Yields fun _ => True := fun _ _ _ _ _ => trivial

theorem Yields.weaken {Q : α → Prop} (h : read.Yields P) (hPQ : ∀ a, P a → Q a) : read.Yields Q :=
  fun depth s a r hread => hPQ a (h depth s a r hread)

theorem Yields.map {Q : β → Prop} {f : α → β} (h : read.Yields fun a => Q (f a)) :
    (read.map f).Yields Q := by
  intro depth s b r hread
  unfold Reader.map at hread
  split at hread
  case h_1 a _ hsome =>
    cases hread
    exact h depth s a r hsome
  case h_2 => cases hread

section

variable {body : Char → Text → Text → Except Fault (α × Text)} {depth : Nat} {s r : Text}

theorem atValue_nil (h : skipBlank s = []) : atValue body depth s = .error .endOfValue := by
  rw [atValue, h]

theorem atValue_none (h : skipBlank s = none :: r) :
    atValue body depth s = .error .expectedValue := by
  rw [atValue, h]

theorem atValue_some {c : Char} (h : skipBlank s = some c :: r) :
    atValue body depth s = body c r (some c :: r) := by
  rw [atValue, h]

end

theorem atValue_ok {body : Char → Text → Text → Except Fault (α × Text)} {depth : Nat} {s r : Text}
    {a : α} (h : atValue body depth s = .ok (a, r)) :
    ∃ c t, body c t (some c :: t) = .ok (a, r) := by
  cases hs : skipBlank s with
  | nil =>
    rw [atValue_nil hs] at h
    cases h
  | cons x t =>
    cases x with
    | none =>
      rw [atValue_none hs] at h
      cases h
    | some c =>
      rw [atValue_some hs] at h
      exact ⟨c, t, h⟩

theorem enter_ok {body : Nat → Except Fault α} {depth : Nat} {a : α}
    (h : enter depth body = .ok a) : ∃ d, body d = .ok a := by
  unfold enter at h
  split at h
  case h_1 d => exact ⟨_, h⟩
  case h_2 => cases h

theorem natural_yields : natural.Yields (· ≤ maxWord) := by
  intro depth s n r h
  obtain ⟨c, t, h⟩ := atValue_ok h
  split at h
  case isTrue =>
    split at h
    case h_1 hscan =>
      cases h
      exact scanNumber_fits hscan
    all_goals cases h
  case isFalse => cases h

theorem integer_yields : integer.Yields (· < (Nat.pow 2 63 : Nat)) := by
  intro depth s n r h
  obtain ⟨c, t, h⟩ := atValue_ok h
  split at h
  case isTrue =>
    split at h
    case h_1 =>
      split at h
      case isTrue hlt =>
        cases h
        exact Int.ofNat_lt.2 hlt
      case isFalse => cases h
    case h_2 hscan =>
      cases h
      have hle : n ≤ 0 := scanNumber_fits hscan
      have hpos : (0 : Int) < (Nat.pow 2 63 : Nat) := by decide
      omega
    all_goals cases h
  case isFalse => cases h

theorem Yields.option (h : read.Yields P) : read.option.Yields fun o => ∀ a ∈ o, P a := by
  intro depth s o r hread
  unfold Reader.option at hread
  split at hread
  case h_1 =>
    obtain ⟨t, -, hnone⟩ := map_ok hread
    cases hnone
    simp
  case h_2 =>
    have hsome : (read.map some).Yields fun o => ∀ a ∈ o, P a :=
      Yields.map (h.weaken fun a ha b hb => by cases hb; exact ha)
    exact hsome depth s o r hread

theorem items_yields (h : read.Yields P) (depth steps : Nat) :
    ∀ afterItem s as r, items read depth steps afterItem s = .ok (as, r) → ∀ a ∈ as, P a := by
  induction steps with
  | zero =>
    intro afterItem s as r hitems
    cases hitems
  | succ steps ih =>
    intro afterItem s as r hitems
    rw [items] at hitems
    split at hitems
    case h_1 => cases hitems
    case h_2 =>
      cases hitems
      simp
    case h_3 =>
      split at hitems
      case h_1 => cases hitems
      case h_2 a _ hfirst =>
        split at hitems
        case h_1 => cases hitems
        case h_2 hrest =>
          cases hitems
          intro b hb
          rcases List.mem_cons.1 hb with rfl | hb
          · exact h _ _ _ _ hfirst
          · exact ih _ _ _ _ hrest b hb

theorem Yields.list (h : read.Yields P) : read.list.Yields fun as => ∀ a ∈ as, P a := by
  intro depth s as r hread
  obtain ⟨c, t, hread⟩ := atValue_ok hread
  split at hread
  case isTrue =>
    obtain ⟨d, hread⟩ := enter_ok hread
    exact items_yields h _ _ _ _ _ _ hread
  case isFalse => cases hread

end Reader

/-! ## What readers take -/

/-- The first character of a value that is no literal. -/
def opensValue (c : Char) : Bool := c == '"' || c == '[' || c == '{' || c == '-' || isDigit c

theorem opensValue_of_startsNumber {c : Char} (h : startsNumber (some c) = true) :
    opensValue c = true := by
  simp only [startsNumber, Bool.or_eq_true] at h
  rcases h with h | h <;> simp [opensValue, h]

theorem opensValue_ne {c d : Char} (h : opensValue c = true) (hd : opensValue d = false) :
    c ≠ d := by
  rintro rfl
  rw [h] at hd
  cases hd

theorem skipBlank_opensValue {c : Char} (h : opensValue c = true) (s : Text) :
    skipBlank (some c :: s) = some c :: s := by
  have hblank : isBlank c = false := by
    simp [isBlank, opensValue_ne h (d := ' ') (by decide), opensValue_ne h (d := '\n') (by decide),
      opensValue_ne h (d := '\t') (by decide), opensValue_ne h (d := '\r') (by decide)]
  rw [skipBlank, hblank]
  rfl

/-- The text is read as the value wherever an item may stand, if so many brackets may be opened. -/
structure Reader.Reads (read : Reader α) (levels : Nat) (text : List Char) (a : α) : Prop where
  opens : ∃ c cs, text = c :: cs ∧ opensValue c = true
  reads : ∀ depth rest, levels < depth → Ends rest →
    read depth (text.map some ++ rest) = .ok (a, rest)

namespace Reader

variable {read : Reader α} {levels : Nat} {text : List Char} {a : α}

theorem atValue_opensValue {body : Char → Text → Text → Except Fault (α × Text)} {c : Char}
    (hc : opensValue c = true) (depth : Nat) (s : Text) :
    atValue body depth (some c :: s) = body c s (some c :: s) :=
  atValue_some (skipBlank_opensValue hc s)

theorem Reads.deeper (h : read.Reads levels text a) {more : Nat} (hle : levels ≤ more) :
    read.Reads more text a :=
  ⟨h.opens, fun depth rest hdepth => h.reads depth rest (Nat.lt_of_le_of_lt hle hdepth)⟩

theorem Reads.map (h : read.Reads levels text a) (f : α → β) :
    (read.map f).Reads levels text (f a) := by
  refine ⟨h.opens, ?_⟩
  intro depth rest hdepth hrest
  rw [Reader.map, h.reads depth rest hdepth hrest]

theorem text_reads (s : String) : Reader.text.Reads 0 (Print.text s) s := by
  refine ⟨⟨'"', s.toList.flatMap escape ++ ['"'], rfl, by decide⟩, ?_⟩
  intro depth rest _ _
  have hstring := readString_escaped s rest
  simp only [Print.text, List.cons_append, List.map_cons, List.map_append, List.append_assoc,
    Reader.text, List.map_nil, List.nil_append]
  rw [atValue_opensValue (by decide), if_pos rfl, hstring]

theorem natural_reads {n : Nat} (hn : n ≤ maxWord) :
    natural.Reads 0 (Print.natural n) n := by
  obtain ⟨c, cs, hcs, hdigit⟩ := natural_eq_cons n
  have hopens : opensValue c = true := by simp [opensValue, hdigit]
  refine ⟨⟨c, cs, hcs, hopens⟩, ?_⟩
  intro depth rest _ hrest
  have hscan := scanNumber_natural hn hrest
  rw [hcs, List.map_cons, List.cons_append] at hscan ⊢
  rw [natural, atValue_opensValue hopens, hscan]
  simp [startsNumber, hdigit]

theorem integer_reads {n : Int} (hlow : -(Nat.pow 2 63 : Nat) ≤ n)
    (hhigh : n < (Nat.pow 2 63 : Nat)) :
    integer.Reads 0 (Print.integer n) n := by
  obtain ⟨c, cs, hcs, hstarts⟩ := integer_eq_cons n
  have hopens := opensValue_of_startsNumber hstarts
  refine ⟨⟨c, cs, hcs, hopens⟩, ?_⟩
  intro depth rest _ hrest
  have hscan := scanNumber_integer hlow hhigh hrest
  rw [hcs, List.map_cons, List.cons_append] at hscan ⊢
  rw [integer, atValue_opensValue hopens, if_pos hstarts, hscan]
  by_cases hneg : n < 0
  · simp only [if_pos hneg]
  · have hword : n.toNat < Nat.pow 2 63 := by omega
    have hback : (n.toNat : Int) = n := Int.toNat_of_nonneg (Int.not_lt.1 hneg)
    simp only [if_neg hneg, if_pos hword, hback]

theorem name_reads {known : String → Except Fault α} {label : String} (h : known label = .ok a) :
    (name known).Reads 0 (Print.text label) a := by
  obtain ⟨hopens, -⟩ := text_reads label
  refine ⟨hopens, ?_⟩
  intro depth rest _ _
  have hstring := readString_escaped label rest
  simp only [Print.text, List.cons_append, List.map_cons, List.map_append, List.append_assoc,
    name, List.map_nil, List.nil_append]
  rw [atValue_opensValue (by decide), if_pos rfl, hstring]
  simp only [h, Except.map]

/-- A printed value is never taken for null. -/
theorem Reads.option (h : read.Reads levels text a) : read.option.Reads levels text (some a) := by
  obtain ⟨c, cs, htext, hopens⟩ := h.opens
  have hmap := h.map some
  refine ⟨h.opens, ?_⟩
  intro depth rest hdepth hrest
  have hread := hmap.reads depth rest hdepth hrest
  have hnull : c ≠ 'n' := opensValue_ne hopens (by decide)
  rw [htext, List.map_cons, List.cons_append] at hread ⊢
  rw [Reader.option, skipBlank_opensValue hopens]
  split
  case h_1 heq =>
    cases heq
    exact absurd rfl hnull
  case h_2 => exact hread

end Reader

/-! ## Items between brackets -/

/-- Items as they stand behind the opening bracket, or behind an item. -/
def Print.between (afterItem : Bool) (xs : List (List Char)) : List Char :=
  if afterItem then xs.flatMap (',' :: ·) else separated xs

theorem Print.separated_cons (x : List Char) (xs : List (List Char)) :
    separated (x :: xs) = x ++ between true xs := by
  induction xs generalizing x with
  | nil => simp [separated, between]
  | cons y ys ih => simp [separated, between, ih y]

theorem Print.between_nil (afterItem : Bool) : between afterItem [] = [] := by
  cases afterItem <;> rfl

theorem Print.between_cons (afterItem : Bool) (x : List Char) (xs : List (List Char)) :
    between afterItem (x :: xs) = (if afterItem then [','] else []) ++ x ++ between true xs := by
  cases afterItem with
  | false => exact separated_cons x xs
  | true => simp [between]

/-- Every item but the first has a character to itself. -/
theorem Print.length_le_between (afterItem : Bool) (xs : List (List Char)) :
    xs.length ≤ (between afterItem xs).length + 1 := by
  have htail : ∀ ys : List (List Char), ys.length ≤ (between true ys).length := by
    intro ys
    induction ys with
    | nil => exact Nat.le_refl 0
    | cons y ys ih =>
      simp only [between_cons, List.length_append, List.length_cons, if_true]
      omega
  cases xs with
  | nil => exact Nat.zero_le _
  | cons x xs =>
    have hxs := htail xs
    simp only [between_cons, List.length_append, List.length_cons]
    omega

/-- Reading a text with brackets takes fewer steps than it has characters. -/
theorem length_lt_between (xs : List (List Char)) (b : Bracket) (rest : Text) :
    xs.length < ((Print.between false xs).map some ++ some b.closer :: rest).length + 1 := by
  have hlength := Print.length_le_between false xs
  simp only [List.length_append, List.length_map, List.length_cons]
  omega

theorem ends_between (xs : List (List Char)) (b : Bracket) (rest : Text) :
    Ends ((Print.between true xs).map some ++ some b.closer :: rest) := by
  cases xs with
  | nil =>
    intro x hx
    cases b with
    | list => exact .inr (.inl (by simpa [Print.between, Bracket.closer] using hx.symm))
    | object => exact .inr (.inr (by simpa [Print.between, Bracket.closer] using hx.symm))
  | cons y ys =>
    intro x hx
    exact .inl (by simpa [Print.between_cons] using hx.symm)

theorem Print.map_list (print : α → List Char) (as : List α) (rest : Text) :
    (list print as).map some ++ rest =
      some '[' :: ((between false (as.map print)).map some ++ some ']' :: rest) := by
  simp [list, between]

namespace Reader

theorem next_close (b : Bracket) (afterItem : Bool) (rest : Text) :
    next b afterItem (some b.closer :: rest) = .ok (.close rest) := by
  cases b <;> rfl

/-- An item that starts like a value is found, behind a comma if one is due. -/
theorem next_item (b : Bracket) (afterItem : Bool) {c : Char} (hc : opensValue c = true)
    (s : Text) :
    next b afterItem ((if afterItem then [','] else []).map some ++ some c :: s) =
      .ok (.item (some c :: s)) := by
  have hcloser : c ≠ b.closer := by cases b <;> exact opensValue_ne hc (by decide)
  have hcomma : ',' ≠ b.closer := by cases b <;> decide
  have hblank : skipBlank (some ',' :: some c :: s) = some ',' :: some c :: s := rfl
  cases afterItem with
  | false => simp [next, skipBlank_opensValue hc, hcloser]
  | true => simp [next, hblank, skipBlank_opensValue hc, hcloser, hcomma]

variable {read : Reader α} {levels : Nat}

theorem items_reads {depth : Nat} (hdepth : levels < depth) (rest : Text)
    {texts : List (List Char)} {as : List α} (h : List.Forall₂ (read.Reads levels) texts as) :
    ∀ steps afterItem, texts.length < steps →
      items read depth steps afterItem
          ((Print.between afterItem texts).map some ++ some ']' :: rest) = .ok (as, rest) := by
  induction h with
  | nil =>
    intro steps afterItem hsteps
    cases steps with
    | zero => exact absurd hsteps (Nat.not_lt_zero _)
    | succ steps =>
      have hclose := next_close .list afterItem rest
      rw [Bracket.closer] at hclose
      simp only [List.map_nil, Print.between_nil, List.nil_append, items, hclose]
  | @cons text a texts as ha _ ih =>
    intro steps afterItem hsteps
    cases steps with
    | zero => exact absurd hsteps (Nat.not_lt_zero _)
    | succ steps =>
      have hends := ends_between texts .list rest
      have hread := ha.reads depth _ hdepth hends
      have hrest := ih steps true (by simpa using hsteps)
      obtain ⟨c, cs, rfl, hopens⟩ := ha.opens
      have hitem := next_item .list afterItem hopens
        (cs.map some ++ ((Print.between true texts).map some ++ some ']' :: rest))
      rw [List.map_cons, List.cons_append] at hread
      simp only [Print.between_cons, List.map_cons, List.map_append, List.append_assoc,
        List.cons_append] at hitem ⊢
      rw [items, hitem]
      simp only [Bracket.closer] at hread
      simp only [hread, hrest]

theorem Reads.list {print : α → List Char} {as : List α}
    (has : ∀ a ∈ as, read.Reads levels (print a) a) :
    read.list.Reads (levels + 1) (Print.list print as) as := by
  refine ⟨⟨'[', _, rfl, by decide⟩, ?_⟩
  intro depth rest hdepth hrest
  obtain ⟨d, rfl⟩ : ∃ d, depth = d + 2 := ⟨depth - 2, by omega⟩
  have hlength := length_lt_between (as.map print) .list rest
  have hprinted : List.Forall₂ (read.Reads levels) (as.map print) as :=
    List.forall₂_map_left_iff.2 (List.forall₂_same.2 has)
  have hitems := items_reads (show levels < d + 1 by omega) rest hprinted _ false hlength
  rw [Print.map_list, Reader.list, atValue_opensValue (by decide), if_pos rfl, enter]
  exact hitems

end Reader

/-! ## Whole texts -/

theorem Reader.Reads.run {read : Reader α} {levels : Nat} {text : List Char} {a : α}
    (h : read.Reads levels text a) (hlevels : levels < 128) :
    read.run (text.map some) = .ok a := by
  have hread := h.reads 128 [] hlevels (by simp [Ends])
  rw [List.append_nil] at hread
  simp only [Reader.run, hread, skipBlank]

theorem Reader.Yields.run {read : Reader α} {P : α → Prop} (h : read.Yields P) {s : Text} {a : α}
    (hrun : read.run s = .ok a) : P a := by
  unfold Reader.run at hrun
  split at hrun
  case h_1 => cases hrun
  case h_2 b r hread =>
    split at hrun
    case h_1 =>
      cases hrun
      exact h _ _ _ _ hread
    case h_2 => cases hrun

theorem Reader.run_map (read : Reader α) (f : α → β) (s : Text) :
    (read.map f).run s = (read.run s).map f := by
  unfold Reader.run Reader.map
  cases read 128 s with
  | error e => rfl
  | ok found =>
    obtain ⟨a, r⟩ := found
    cases hrest : skipBlank r with
    | nil => simp only [hrest]; rfl
    | cons x r => simp only [hrest]; rfl

/-- What a name stands for does not matter for how it is read. -/
theorem Reader.name_map (f : String → α) :
    Reader.name (fun label => .ok (f label)) = (Reader.name .ok).map f := by
  funext depth s
  simp only [Reader.map, Reader.name]
  cases hs : skipBlank s with
  | nil => simp only [Reader.atValue_nil hs]
  | cons x r =>
    cases x with
    | none => simp only [Reader.atValue_none hs]
    | some c =>
      simp only [Reader.atValue_some hs]
      by_cases hquote : c = '"'
      · simp only [hquote, if_true]
        cases readString r with
        | error e => rfl
        | ok found => rfl
      by_cases hbrace : c = '{'
      · subst hbrace
        simp only [hquote, if_true, if_false]
        cases depth with
        | zero => rfl
        | succ depth =>
          cases depth with
          | zero => rfl
          | succ depth =>
            -- The key, the colon, the null and the bracket are read alike.
            simp only [Reader.enter]
            generalize Reader.atValue _ (depth + 1) r = key
            cases key with
            | error e => rfl
            | ok found =>
              simp only
              cases Reader.colon found.2 with
              | error e => rfl
              | ok r =>
                simp only
                cases Reader.null (depth + 1) r with
                | error e => rfl
                | ok found =>
                  simp only
                  cases skipBlank found.2 with
                  | nil => rfl
                  | cons x r =>
                    by_cases hclose : x = some '}'
                    · simp only [hclose, if_true]
                    · simp only [hclose, if_false]
      · simp only [hquote, hbrace, if_false]

theorem Reader.run_name {s : Text} {label : String} (h : (Reader.name .ok).run s = .ok label)
    (f : String → α) : (Reader.name fun label => .ok (f label)).run s = .ok (f label) := by
  rw [name_map, run_map, h]
  rfl

end Rollout.Json
