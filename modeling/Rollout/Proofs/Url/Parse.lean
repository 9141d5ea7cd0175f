import Mathlib.Data.List.TakeWhile
import Rollout.Proofs.Url.Segments
import Rollout.Unicode.Space
import Rollout.Url.Parse

/-!
Reading a URL of the net in two parts: the authority, and what stands behind it
(`ofAuthority_append`). The host and the user come from the authority alone, the path and the query
from the rest.
-/

namespace Rollout.Url

/-! ## Cleaning -/

open Unicode (trimEnd)

theorem exists_trimEnd_append (p : Char → Bool) (cs : List Char) :
    ∃ ks, cs = trimEnd p cs ++ ks ∧ ∀ k ∈ ks, p k = true := by
  refine ⟨(cs.reverse.takeWhile p).reverse, ?_, fun k hk => ?_⟩
  · rw [trimEnd, ← List.reverse_append, List.takeWhile_append_dropWhile, List.reverse_reverse]
  · exact List.mem_takeWhile_imp (List.mem_reverse.1 hk)

theorem trimEnd_append_cons {p : Char → Bool} {c : Char} (hc : p c = false) (cs ds : List Char) :
    trimEnd p (cs ++ c :: ds) = cs ++ c :: trimEnd p ds := by
  have hstop : (c :: cs.reverse).dropWhile p = c :: cs.reverse := by simp [hc]
  rw [trimEnd, List.reverse_append, List.reverse_cons, List.append_assoc, List.singleton_append,
    List.dropWhile_append, hstop, trimEnd]
  split
  · rename_i hnil
    rw [List.isEmpty_iff] at hnil
    simp [hnil]
  · simp

theorem getLast?_trimEnd {p : Char → Bool} {cs : List Char} {c : Char}
    (h : (trimEnd p cs).getLast? = some c) : p c = false := by
  have hstop := List.head?_dropWhile_not p cs.reverse
  rw [trimEnd, List.getLast?_reverse] at h
  rwa [h] at hstop

theorem trimEnd_sublist (p : Char → Bool) (cs : List Char) : (trimEnd p cs).Sublist cs := by
  rw [trimEnd, ← List.reverse_sublist, List.reverse_reverse]
  exact List.dropWhile_sublist p

/-- A control, or the blank. -/
def isControl (c : Char) : Bool := c.toNat ≤ 0x20

theorem isControl_iff {c : Char} : isControl c = true ↔ c.toNat ≤ 0x20 := by
  simp [isControl]

theorem ne_of_control {c d : Char} (hc : isControl c = true) (hd : isControl d = false) :
    c ≠ d := by
  rintro rfl
  rw [hc] at hd
  cases hd

/-- What holds of all controls can be looked through. -/
theorem control_forall (P : Char → Prop) (hall : ∀ n, n ≤ 0x20 → P (Char.ofNat n)) {c : Char}
    (hc : isControl c = true) : P c := by
  have h := hall c.toNat (isControl_iff.1 hc)
  rwa [Char.ofNat_toNat] at h

/-- Tabs and line breaks do not count anywhere. -/
def isBreak (c : Char) : Bool := c = '\t' || c = '\n' || c = '\r'

def flat (cs : List Char) : List Char := cs.filter fun c => !isBreak c

theorem flat_append (cs ds : List Char) : flat (cs ++ ds) = flat cs ++ flat ds := by
  simp [flat]

theorem flat_cons {c : Char} (hc : isBreak c = false) (cs : List Char) :
    flat (c :: cs) = c :: flat cs := by
  simp [flat, hc]

theorem isControl_of_isBreak {c : Char} (h : isBreak c = true) : isControl c = true := by
  simp only [isBreak, Bool.or_eq_true, decide_eq_true_eq] at h
  obtain (rfl | rfl) | rfl := h
  · rfl
  · rfl
  · rfl

/-- A text that is cleaned does not end in a control. -/
theorem getLast?_flat_trimEnd {cs : List Char} {c : Char}
    (h : (flat (trimEnd isControl cs)).getLast? = some c) : isControl c = false := by
  cases hlast : (trimEnd isControl cs).getLast? with
  | none =>
    rw [List.getLast?_eq_none_iff.1 hlast] at h
    cases h
  | some d =>
    have hd := getLast?_trimEnd hlast
    have hbreak : isBreak d = false := by
      cases hb : isBreak d with
      | false => rfl
      | true =>
        rw [isControl_of_isBreak hb] at hd
        cases hd
    obtain ⟨front, hfront⟩ := List.getLast?_eq_some_iff.1 hlast
    rw [hfront, flat_append, flat_cons hbreak] at h
    simp [flat] at h
    rw [← h]
    exact hd

/-- What is left of a text that begins with a character that counts. -/
theorem clean_cons {c : Char} (hc : isControl c = false) (cs : List Char) :
    clean (c :: cs) = flat (trimEnd isControl (c :: cs)) := by
  have hdrop : (c :: cs).dropWhile isControl = c :: cs := by simp [hc]
  exact congrArg (fun ds => flat (trimEnd isControl ds)) hdrop

/-! ## Authorities -/

variable {s : Scheme}

theorem endsAuthority_of_control {c : Char} (h : isControl c = true) :
    endsAuthority s c = false := by
  have hne : ∀ d, isControl d = false → c ≠ d := fun d hd => ne_of_control h hd
  simp [endsAuthority, Scheme.isSlash, endsPath, hne '/' (by decide), hne '\\' (by decide),
    hne '?' (by decide), hne '#' (by decide)]

theorem isSlash_of_control {c : Char} (h : isControl c = true) : s.isSlash c = false :=
  (Bool.or_eq_false_iff.1 (endsAuthority_of_control h)).1

theorem endsPath_of_control {c : Char} (h : isControl c = true) : endsPath c = false :=
  (Bool.or_eq_false_iff.1 (endsAuthority_of_control (s := .http) h)).2

theorem endsPort_eq (hs : s.isSpecial = true) (c : Char) : endsPort c = endsAuthority s c := by
  simp [endsPort, endsAuthority, Scheme.isSlash, hs]

theorem colon_ends_not : endsAuthority s ':' = false := by
  simp [endsAuthority, Scheme.isSlash, endsPath]

theorem splitHost_append {rest : List Char} (hrest : ∀ c ∈ rest.head?, endsAuthority s c = true)
    (cs : List Char) (inBrackets : Bool) :
    splitHost s inBrackets (cs ++ rest) =
      ((splitHost s inBrackets cs).1, (splitHost s inBrackets cs).2 ++ rest) := by
  induction cs generalizing inBrackets with
  | nil =>
    cases rest with
    | nil => rfl
    | cons c rest => simp [splitHost, hrest c rfl]
  | cons c cs ih =>
    simp only [List.cons_append, splitHost]
    split
    · rfl
    · rw [ih]

/-- The host ends at the end of an authority or at a colon. -/
theorem splitHost_rest {cs : List Char} (hcs : ∀ c ∈ cs, endsAuthority s c = false)
    (inBrackets : Bool) : (splitHost s inBrackets cs).2 = [] ∨
      ∃ ds, (splitHost s inBrackets cs).2 = ':' :: ds ∧ ∀ d ∈ ds, endsAuthority s d = false := by
  induction cs generalizing inBrackets with
  | nil => exact .inl rfl
  | cons c cs ih =>
    rw [splitHost, hcs c List.mem_cons_self]
    have hrest := fun d hd => hcs d (List.mem_cons_of_mem c hd)
    split
    · rename_i hc
      simp only [Bool.false_or, Bool.and_eq_true, decide_eq_true_eq] at hc
      exact .inr ⟨cs, by rw [hc.1], hrest⟩
    · exact ih hrest _

theorem takeWhile_append_ends {p : Char → Bool} {cs rest : List Char} (hcs : ∀ c ∈ cs, p c = false)
    (hrest : ∀ c ∈ rest.head?, p c = true) : (cs ++ rest).takeWhile (fun c => !p c) = cs := by
  rw [List.takeWhile_append_of_pos (by simpa using hcs)]
  cases rest with
  | nil => simp
  | cons c rest => simp [hrest c rfl]

theorem dropWhile_append_ends {p : Char → Bool} {cs rest : List Char} (hcs : ∀ c ∈ cs, p c = true)
    (hrest : ∀ c ∈ rest.head?, p c = false) : (cs ++ rest).dropWhile p = rest := by
  rw [List.dropWhile_append_of_pos hcs]
  cases rest with
  | nil => rfl
  | cons c rest => simp [hrest c rfl]

/-- A text begins with as many characters of a kind as it can. -/
theorem exists_span (p : Char → Bool) (cs : List Char) : ∃ front rest, cs = front ++ rest ∧
    (∀ c ∈ front, p c = true) ∧ ∀ c ∈ rest.head?, p c = false := by
  refine ⟨cs.takeWhile p, cs.dropWhile p, List.takeWhile_append_dropWhile.symm,
    fun c hc => List.mem_takeWhile_imp hc, fun c hc => ?_⟩
  have hstop := List.head?_dropWhile_not p cs
  rwa [Option.mem_def.1 hc] at hstop

/-- The user in an authority, and the place behind it. -/
def userIn (authority : List Char) : List Char := ((splitUser authority).map Prod.fst).getD []

def placeIn (authority : List Char) : List Char :=
  authority.drop (authority.length - ((splitUser authority).map (·.2.length)).getD authority.length)

def hostIn (s : Scheme) (authority : List Char) : List Char :=
  (splitHost s false (placeIn authority)).1

def portIn (s : Scheme) (authority : List Char) : List Char :=
  (splitHost s false (placeIn authority)).2.drop 1

theorem placeIn_subset (authority : List Char) : placeIn authority ⊆ authority :=
  List.drop_subset _ _

/-- An authority that a text begins with is split as if it stood alone. -/
theorem Authority.split_append (hs : s.isSpecial = true) {authority rest : List Char}
    (ha : ∀ c ∈ authority, endsAuthority s c = false)
    (hrest : ∀ c ∈ rest.head?, endsAuthority s c = true) :
    Authority.split s (authority ++ rest) =
      ⟨encode inUserSet ((userIn authority).takeWhile (· != ':')),
        let password := ((userIn authority).dropWhile (· != ':')).drop 1
        if password.isEmpty then none else some (encode inUserSet password),
        hostIn s authority, portIn s authority, rest⟩ := by
  have hcolon : ∀ ds, rest ≠ ':' :: ds := by
    rintro ds rfl
    have hc := hrest ':' rfl
    rw [colon_ends_not] at hc
    cases hc
  have hdigits : ∀ ds, (∀ d ∈ ds, endsAuthority s d = false) →
      (ds ++ rest).takeWhile (fun c => !endsPort c) = ds := fun ds hds =>
    takeWhile_append_ends (by simpa [endsPort_eq hs] using hds)
      (by simpa [endsPort_eq hs] using hrest)
  have hplace : ∀ user, splitUser authority = user → (user.elim (authority ++ rest) fun u =>
      (authority ++ rest).drop (authority.length - u.2.length)) = placeIn authority ++ rest := by
    rintro user rfl
    unfold placeIn
    cases splitUser authority with
    | none => simp
    | some u => simp [List.drop_append_of_le_length]
  have hsplit := splitHost_append hrest (placeIn authority) false
  rw [Authority.split, takeWhile_append_ends ha hrest]
  unfold hostIn portIn userIn
  cases hu : splitUser authority with
  | none | some u =>
    have hp := hplace _ hu
    simp only [Option.elim_none, Option.elim_some] at hp
    simp only [hp, hsplit]
    obtain hend | ⟨ds, hend, hds⟩ :=
      splitHost_rest (fun c hc => ha c (placeIn_subset authority hc)) false
    · simp [hend]
    · simp [hend, hdigits ds hds]

/-! ## Controls at the end of an authority -/

theorem splitHost_controls {ks : List Char} (hks : ∀ k ∈ ks, isControl k = true)
    (inBrackets : Bool) : splitHost s inBrackets ks = (ks, []) := by
  induction ks generalizing inBrackets with
  | nil => rfl
  | cons k ks ih =>
    have hk := hks k List.mem_cons_self
    have hcolon : k ≠ ':' := ne_of_control hk (by decide)
    simp [splitHost, endsAuthority_of_control hk, hcolon,
      ih fun d hd => hks d (List.mem_cons_of_mem k hd)]

/-- Controls belong to the host or, behind a colon, to the port. -/
theorem splitHost_append_controls {ks : List Char} (hks : ∀ k ∈ ks, isControl k = true)
    (cs : List Char) (inBrackets : Bool) : splitHost s inBrackets (cs ++ ks) =
      if (splitHost s inBrackets cs).2 = [] then ((splitHost s inBrackets cs).1 ++ ks, [])
      else ((splitHost s inBrackets cs).1, (splitHost s inBrackets cs).2 ++ ks) := by
  induction cs generalizing inBrackets with
  | nil => simpa [splitHost] using splitHost_controls hks inBrackets
  | cons c cs ih =>
    simp only [List.cons_append, splitHost]
    split
    · simp
    · rw [ih]
      split
      · rfl
      · rfl

theorem placeIn_append_controls {ks : List Char} (hks : ∀ k ∈ ks, isControl k = true)
    (cs : List Char) : placeIn (cs ++ ks) = placeIn cs ++ ks := by
  have hat : '@' ∉ ks := fun h => by
    have hcontrol := hks '@' h
    revert hcontrol
    decide
  have hnot : ∀ k ∈ ks.reverse, (k != '@') = true := fun k hk => by
    rw [bne_iff_ne]
    exact ne_of_control (hks k (List.mem_reverse.1 hk)) (by decide)
  unfold placeIn splitUser
  simp only [List.mem_append, hat, or_false, List.reverse_append,
    List.takeWhile_append_of_pos hnot, List.reverse_reverse, List.length_append]
  split
  · simp only [Option.map_some, Option.getD_some, List.length_append, List.length_reverse,
      Nat.add_sub_add_right]
    exact List.drop_append_of_le_length (Nat.sub_le _ _)
  · simp

/-! ## URLs -/

/-- A URL with what a text behind its authority says. -/
def withRest (s : Scheme) (u : Url) (rest : List Char) : Url :=
  let tail := tailOf s (rest.dropWhile fun c => !endsPath c)
  { u with
    path := pathOf s (rest.takeWhile fun c => !endsPath c)
    query := tail.query
    fragment := tail.fragment }

theorem pathOf_nil (hs : s.isSpecial = true) : pathOf s [] = resolve [] [[]] := by
  simp [pathOf, hs, segments]

theorem pathOf_cons {c : Char} (hc : s.isSlash c = true) (cs : List Char) :
    pathOf s (c :: cs) = resolve [] (segments s.isSlash cs) := by
  simp [pathOf, hc]

/-- What stands behind an authority changes the path, the query and the fragment only. -/
theorem ofAuthority_append (hs : s.isSpecial = true) {authority rest : List Char}
    (ha : ∀ c ∈ authority, endsAuthority s c = false)
    (hrest : ∀ c ∈ rest.head?, endsAuthority s c = true) :
    ofAuthority s (authority ++ rest) = (ofAuthority s authority).map (withRest s · rest) := by
  have hend : ∀ c ∈ ([] : List Char).head?, endsAuthority s c = true := by simp
  have halone := Authority.split_append hs ha hend
  rw [List.append_nil] at halone
  rw [ofAuthority, ofAuthority, Authority.split_append hs ha hrest, halone]
  simp only [hs, if_pos]
  cases (hostIn s authority).isEmpty with
  | true => rfl
  | false =>
    cases Host.ofText (hostIn s authority) with
    | error flaw => rfl
    | ok host =>
      cases portOf s (portIn s authority) with
      | error flaw => rfl
      | ok port => rfl

/-- The scheme of a web URL, and the text behind its colon. -/
theorem schemeOf?_web (hs : s.isWeb = true) (cs : List Char) :
    schemeOf? (s.name ++ ':' :: cs) = some (s, cs) := by
  cases s with
  | http => rfl
  | https => rfl
  | _ => cases hs

theorem special_of_web (hs : s.isWeb = true) : s.isSpecial = true := by
  cases s with
  | other name => cases hs
  | _ => rfl

theorem flat_name (hs : s.isWeb = true) : flat s.name = s.name := by
  cases s with
  | http | https => rfl
  | _ => cases hs

theorem clean_web (hs : s.isWeb = true) (cs : List Char) :
    clean (s.name ++ ':' :: '/' :: '/' :: cs) =
      s.name ++ ':' :: '/' :: '/' :: flat (trimEnd isControl cs) := by
  have hclean : clean (s.name ++ ':' :: '/' :: '/' :: cs) =
      flat (trimEnd isControl (s.name ++ ':' :: '/' :: '/' :: cs)) := by
    cases s with
    | http | https => exact clean_cons rfl _
    | _ => cases hs
  have hsplit : s.name ++ ':' :: '/' :: '/' :: cs = (s.name ++ [':', '/']) ++ '/' :: cs := by simp
  rw [hclean, hsplit, trimEnd_append_cons (by decide), List.append_assoc, flat_append, flat_name hs]
  rfl

theorem dropWhile_slashes (cs : List Char) :
    ('/' :: '/' :: cs).dropWhile s.isSlash = cs.dropWhile s.isSlash := by
  simp [Scheme.isSlash]

/-- A web URL is read from behind the slashes that follow its scheme. -/
theorem read_web (hs : s.isWeb = true) (cs : List Char) :
    read none (s.name ++ ':' :: '/' :: '/' :: cs) =
      (ofAuthority s ((flat (trimEnd isControl cs)).dropWhile s.isSlash)).map Goal.url := by
  have hread : read none (s.name ++ ':' :: '/' :: '/' :: cs) =
      (ofAuthority s ((flat (trimEnd isControl cs)).dropWhile s.isSlash)).bind
        fun u => .ok (Goal.url u) := by
    rw [read, clean_web hs, schemeOf?_web hs, ← dropWhile_slashes]
    cases s with
    | http | https => rfl
    | _ => cases hs
  rw [hread]
  cases ofAuthority s ((flat (trimEnd isControl cs)).dropWhile s.isSlash) with
  | error flaw => rfl
  | ok u => rfl

theorem ofAuthority_nil (hs : s.isWeb = true) : ofAuthority s [] = .error .emptyHost := by
  cases s with
  | http | https => rfl
  | _ => cases hs

end Rollout.Url
