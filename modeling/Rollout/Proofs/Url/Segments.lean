import Rollout.Proofs.Url.Percent
import Rollout.Url.Segments

/-!
Paths and their last segments. A path is walked segment by segment (`walk`), which does not depend
on what follows, and the last segment decides how it ends (`resolve_snoc`). That segment is a piece
of the end of the text, and it alone grows where the text does (`exists_segments_append`).
-/

namespace Rollout.Url

variable {isSlash : Char → Bool}

theorem segments_ne_nil (isSlash : Char → Bool) (cs : List Char) : segments isSlash cs ≠ [] := by
  cases cs with
  | nil => simp [segments]
  | cons c cs =>
    rw [segments]
    split
    · simp
    · split <;> simp

theorem segments_of_no_slash {cs : List Char} (h : ∀ c ∈ cs, isSlash c = false) :
    segments isSlash cs = [cs] := by
  induction cs with
  | nil => rfl
  | cons c cs ih =>
    rw [segments, if_neg (by simp [h c]), ih fun d hd => h d (List.mem_cons_of_mem c hd)]

theorem segments_append_cons {c : Char} (hc : isSlash c = true) (cs ds : List Char) :
    segments isSlash (cs ++ c :: ds) = segments isSlash cs ++ segments isSlash ds := by
  induction cs with
  | nil => simp [segments, hc]
  | cons d cs ih =>
    rw [List.cons_append, segments, segments, ih]
    split
    · rfl
    · obtain ⟨s, rest, hs⟩ := List.exists_cons_of_ne_nil (segments_ne_nil isSlash cs)
      rw [hs]
      rfl

/-- The last slash of a text, if it has one. -/
theorem slash_cases (isSlash : Char → Bool) (cs : List Char) : (∀ c ∈ cs, isSlash c = false) ∨
    ∃ front c last, cs = front ++ c :: last ∧ isSlash c = true ∧ ∀ d ∈ last, isSlash d = false := by
  induction cs with
  | nil => exact .inl (by simp)
  | cons c cs ih =>
    obtain hno | ⟨front, d, last, rfl, hd, hlast⟩ := ih
    · cases hc : isSlash c with
      | false => exact .inl (by simpa [hc] using hno)
      | true => exact .inr ⟨[], c, cs, rfl, hc, hno⟩
    · exact .inr ⟨c :: front, d, last, rfl, hd, hlast⟩

/-- What is written behind a text, without a slash, goes to its last segment. That one is empty
where the text is empty or ends in a slash. -/
theorem exists_segments_append (isSlash : Char → Bool) (cs : List Char) : ∃ front last,
    last <:+ cs ∧ (∀ c ∈ last, isSlash c = false) ∧
      (last = [] ↔ ∀ c ∈ cs.getLast?, isSlash c = true) ∧
      ∀ ds, (∀ d ∈ ds, isSlash d = false) →
        segments isSlash (cs ++ ds) = front ++ [last ++ ds] := by
  obtain hno | ⟨front, c, last, rfl, hc, hlast⟩ := slash_cases isSlash cs
  · refine ⟨[], cs, List.suffix_refl cs, hno, ?_, fun ds hds => ?_⟩
    · refine ⟨fun h => by simp [h], fun h => ?_⟩
      cases hl : cs.getLast? with
      | none => exact List.getLast?_eq_none_iff.1 hl
      | some c =>
        have hmem := hno c (List.mem_of_getLast? hl)
        rw [h c hl] at hmem
        cases hmem
    · exact segments_of_no_slash fun d hd => (List.mem_append.1 hd).elim (hno d) (hds d)
  · refine ⟨segments isSlash front, last, ⟨front ++ [c], by simp⟩, hlast, ?_, fun ds hds => ?_⟩
    · refine ⟨fun h => by simp [h, hc], fun h => ?_⟩
      cases hl : last.getLast? with
      | none => exact List.getLast?_eq_none_iff.1 hl
      | some d =>
        have hmem := hlast d (List.mem_of_getLast? hl)
        rw [h d (by simp [List.getLast?_append, List.getLast?_cons, hl])] at hmem
        cases hmem
    · have hplain : ∀ d ∈ last ++ ds, isSlash d = false := fun d hd =>
        (List.mem_append.1 hd).elim (hlast d) (hds d)
      rw [List.append_assoc, List.cons_append, segments_append_cons hc, segments_of_no_slash hplain]

/-! ## Walking -/

def isDots (s : List Char) : Bool := isDoubleDot s || isDot s

/-- The segments behind those of `done` when one more has been read. -/
def enter (done : List (List Char)) (s : List Char) : List (List Char) :=
  if isDoubleDot s then leave done else if isDot s then done else encode inPathSet s :: done

def walk (done : List (List Char)) (segs : List (List Char)) : List (List Char) :=
  segs.foldl enter done

theorem walk_append (done xs ys : List (List Char)) :
    walk done (xs ++ ys) = walk (walk done xs) ys :=
  List.foldl_append

theorem walk_concat (done xs : List (List Char)) (s : List Char) :
    walk done (xs ++ [s]) = enter (walk done xs) s :=
  walk_append done xs [s]

theorem enter_of_not_dots {s : List Char} (h : isDots s = false) (done : List (List Char)) :
    enter done s = encode inPathSet s :: done := by
  rw [isDots, Bool.or_eq_false_iff] at h
  simp [enter, h]

theorem isDots_nil : isDots [] = false := by
  decide

/-- At the end of a path dots leave an empty segment. -/
theorem resolve_snoc (done xs : List (List Char)) (s : List Char) : resolve done (xs ++ [s]) =
    (walk done (xs ++ [s])).reverse ++ if isDots s then [[]] else [] := by
  induction xs generalizing done with
  | nil =>
    have hdots : (isDoubleDot s || isDot s) = isDots s := rfl
    simp only [List.nil_append, resolve, List.isEmpty_nil, Bool.true_and, hdots]
    split
    · simp [walk, enter]
    · simp [walk, enter]
  | cons x xs ih =>
    rw [List.cons_append, resolve]
    have hmore : (xs ++ [s]).isEmpty = false := by simp
    rw [hmore, Bool.false_and, if_neg (by simp), ih]
    rfl

theorem walk_names {names : List (List Char)} (h : ∀ n ∈ names, isDots n = false)
    (done : List (List Char)) :
    walk done names = (names.map (encode inPathSet)).reverse ++ done := by
  induction names generalizing done with
  | nil => rfl
  | cons n names ih =>
    have hwalk : walk done (n :: names) = walk (enter done n) names := rfl
    rw [hwalk, enter_of_not_dots (h n List.mem_cons_self),
      ih fun m hm => h m (List.mem_cons_of_mem n hm)]
    simp

/-- Names behind a path stand behind all that was walked. -/
theorem resolve_names {names : List (List Char)} (h : ∀ n ∈ names, isDots n = false)
    (hne : names ≠ []) (done xs : List (List Char)) :
    resolve done (xs ++ names) =
      (walk done xs).reverse ++ names.map (encode inPathSet) := by
  obtain ⟨front, last, rfl⟩ : ∃ front last, names = front ++ [last] :=
    ⟨_, _, (List.dropLast_concat_getLast hne).symm⟩
  rw [← List.append_assoc, resolve_snoc, List.append_assoc, walk_append, walk_names h,
    h last (by simp)]
  simp

theorem leave_length_le (done : List (List Char)) : (leave done).length ≤ done.length := by
  unfold leave
  split
  · simp
  · split <;> simp

/-- A character that spells no dot stays where dots are resolved. -/
theorem mem_dots {c : Char} {s : List Char} (hc : c ∈ s) (h : c ∉ ['%', '2', 'e', 'E']) :
    c ∈ dots s := by
  simp only [List.mem_cons, List.not_mem_nil, or_false, not_or] at h
  fun_induction dots s with
  | case1 cs ih | case2 cs ih => exact List.mem_cons_of_mem _ (ih (by simpa [h] using hc))
  | case3 d cs _ _ ih =>
    obtain rfl | hc := List.mem_cons.1 hc
    · exact List.mem_cons_self
    · exact List.mem_cons_of_mem _ (ih hc)
  | case4 => cases hc

theorem not_isDots_of_mem {c : Char} {s : List Char} (hc : c ∈ s)
    (h : c ∉ ['%', '2', 'e', 'E', '.']) : isDots s = false := by
  simp only [List.mem_cons, List.not_mem_nil, or_false, not_or] at h
  have hmem : c ∈ dots s := mem_dots hc (by simp [h])
  rw [isDots, Bool.or_eq_false_iff, isDoubleDot, isDot, beq_eq_false_iff_ne, beq_eq_false_iff_ne]
  constructor
  · intro heq
    simp [heq, h] at hmem
  · intro heq
    simp [heq, h] at hmem

end Rollout.Url
