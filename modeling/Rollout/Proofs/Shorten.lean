import Rollout.Shorten

/-!
The short form of an error. It is one line of at most 75 characters: the whole error where that has
no more than 75 bytes, and else its longest beginning of at most 74 bytes with an ellipsis behind
it. The ellipsis has three bytes, so a cut error may be longer than an error that is left whole, and
yet it is its own short form (`shortError_shape`).
-/

namespace Rollout

/-! ## Bytes of a text -/

theorem utf8ByteSize_ofList (cs : List Char) : (String.ofList cs).utf8ByteSize = byteLength cs := by
  induction cs with
  | nil => rfl
  | cons c cs ih =>
    have hsplit : String.ofList (c :: cs) = String.singleton c ++ String.ofList cs :=
      @String.ofList_append [c] cs
    rw [hsplit, String.utf8ByteSize_append, String.utf8ByteSize_singleton, ih, byteLength]

theorem byteLength_toList (s : String) : byteLength s.toList = s.utf8ByteSize := by
  rw [← utf8ByteSize_ofList, String.ofList_toList]

theorem byteLength_append (front rest : List Char) :
    byteLength (front ++ rest) = byteLength front + byteLength rest := by
  induction front with
  | nil => simp [byteLength]
  | cons c front ih => simp [byteLength, ih, Nat.add_assoc]

theorem length_le_byteLength (cs : List Char) : cs.length ≤ byteLength cs := by
  induction cs with
  | nil => exact Nat.le_refl 0
  | cons c cs ih =>
    have hpos := c.utf8Size_pos
    simp only [List.length_cons, byteLength]
    omega

/-! ## Beginnings that fit -/

theorem fitting_prefix (limit : Nat) (cs : List Char) : fitting limit cs <+: cs := by
  induction cs generalizing limit with
  | nil => exact List.prefix_refl []
  | cons c cs ih =>
    rw [fitting]
    split
    · exact List.cons_prefix_cons.2 ⟨rfl, ih _⟩
    · exact List.nil_prefix

theorem byteLength_fitting_le (limit : Nat) (cs : List Char) :
    byteLength (fitting limit cs) ≤ limit := by
  induction cs generalizing limit with
  | nil => exact Nat.zero_le limit
  | cons c cs ih =>
    rw [fitting]
    split
    · have hrest := ih (limit - c.utf8Size)
      simp only [byteLength]
      omega
    · exact Nat.zero_le limit

/-- No beginning that fits is longer. -/
theorem byteLength_le_fitting {limit : Nat} {front cs : List Char} (h : front <+: cs)
    (hfits : byteLength front ≤ limit) : byteLength front ≤ byteLength (fitting limit cs) := by
  induction cs generalizing limit front with
  | nil => rw [List.prefix_nil.1 h]; exact Nat.zero_le _
  | cons c cs ih =>
    cases front with
    | nil => exact Nat.zero_le _
    | cons d front =>
      obtain ⟨rfl, hprefix⟩ := List.cons_prefix_cons.1 h
      simp only [byteLength] at hfits
      have hroom : byteLength front ≤ limit - d.utf8Size := by omega
      have hrest := ih hprefix hroom
      rw [fitting, if_pos (by omega)]
      simp only [byteLength]
      omega

/-- A beginning is the one that fits if the character behind it has no room. -/
theorem fitting_append {limit : Nat} {front rest : List Char} (hfits : byteLength front ≤ limit)
    (hnext : ∀ c ∈ rest.head?, limit < byteLength front + c.utf8Size) :
    fitting limit (front ++ rest) = front := by
  induction front generalizing limit with
  | nil =>
    cases rest with
    | nil => rfl
    | cons c rest =>
      have hsize := hnext c rfl
      rw [byteLength, Nat.zero_add] at hsize
      exact if_neg (by omega)
  | cons d front ih =>
    simp only [byteLength] at hfits hnext
    rw [List.cons_append, fitting, if_pos (by omega), ih (by omega)]
    intro c hc
    have hsize := hnext c hc
    omega

/-- Behind the beginning that fits there is a character without room, or nothing. -/
theorem fitting_next {limit : Nat} {cs rest : List Char} (h : cs = fitting limit cs ++ rest) :
    ∀ c ∈ rest.head?, limit < byteLength (fitting limit cs) + c.utf8Size := by
  cases rest with
  | nil => simp
  | cons c rest =>
    rintro _ ⟨⟩
    -- With this character the beginning would be longer and still fit.
    refine Nat.lt_of_not_le fun hroom => ?_
    have hlonger : byteLength (fitting limit cs ++ [c]) ≤ byteLength (fitting limit cs) := by
      refine byteLength_le_fitting ⟨rest, ?_⟩ ?_
      · rw [List.append_assoc]
        exact h.symm
      · simp only [byteLength_append, byteLength]
        omega
    have hpos := c.utf8Size_pos
    simp only [byteLength_append, byteLength] at hlonger
    omega

/-! ## Ends of characters -/

/-- The search backwards for a place where a character ends. -/
def boundaryBelow (s : String) : (place : Nat) → Nat
  | 0 => 0
  | place + 1 =>
    if (⟨place + 1⟩ : String.Pos.Raw).IsValid s then place + 1 else boundaryBelow s place

/-- The search stops at the last place before its start where a character ends. -/
theorem boundaryBelow_eq {s : String} {stop start : Nat}
    (hstop : (⟨stop⟩ : String.Pos.Raw).IsValid s) (hle : stop ≤ start)
    (hbetween : ∀ place, stop < place → place ≤ start → ¬ (⟨place⟩ : String.Pos.Raw).IsValid s) :
    boundaryBelow s start = stop := by
  induction start with
  | zero => rw [Nat.le_zero.1 hle, boundaryBelow]
  | succ start ih =>
    rw [boundaryBelow]
    by_cases hhere : stop = start + 1
    · subst hhere
      exact if_pos hstop
    · rw [if_neg (hbetween (start + 1) (by omega) (Nat.le_refl _))]
      exact ih (by omega) fun place hlow hhigh => hbetween place hlow (by omega)

/-- The beginning that fits ends where the search from the limit stops. -/
theorem boundaryBelow_fitting {s rest : String} {limit : Nat}
    (h : s = String.ofList (fitting limit s.toList) ++ rest) :
    boundaryBelow s limit = byteLength (fitting limit s.toList) := by
  refine boundaryBelow_eq ?_ (byteLength_fitting_le _ _) ?_
  · refine String.Pos.Raw.isValid_iff_exists_append.2 ⟨_, rest, h, ?_⟩
    rw [String.Pos.Raw.ext_iff, String.byteIdx_rawEndPos, utf8ByteSize_ofList]
  · intro place hlow hhigh hvalid
    obtain ⟨longer, others, hs, hplace⟩ := String.Pos.Raw.isValid_iff_exists_append.1 hvalid
    have hsize : place = byteLength longer.toList := by
      rw [byteLength_toList]
      exact congrArg String.Pos.Raw.byteIdx hplace
    have hprefix : longer.toList <+: s.toList := ⟨others.toList, by rw [hs, String.toList_append]⟩
    have hroom : byteLength longer.toList ≤ limit := by omega
    have hle := byteLength_le_fitting hprefix hroom
    omega

/-! ## Errors -/

/-- An error on one line. -/
def oneLine (message : String) : String := message.map fun c => if c = '\n' then ' ' else c

theorem newline_not_mem_oneLine (message : String) : '\n' ∉ (oneLine message).toList := by
  rw [oneLine, String.toList_map]
  intro hmem
  obtain ⟨c, -, hc⟩ := List.mem_map.1 hmem
  split at hc
  case isTrue => exact absurd hc (by decide)
  case isFalse hne => exact hne hc

/-- A text on one line stays as it is. -/
theorem oneLine_eq {message : String} (h : '\n' ∉ message.toList) : oneLine message = message := by
  refine String.toList_inj.1 ?_
  have hkeep : ∀ c ∈ message.toList, (if c = '\n' then ' ' else c) = id c := by
    intro c hc
    refine if_neg ?_
    rintro rfl
    exact h hc
  rw [oneLine, String.toList_map, List.map_congr_left hkeep, List.map_id]

theorem shortError_eq (message : String) : shortError message =
    if (oneLine message).utf8ByteSize ≤ 75 then oneLine message
    else String.ofList (fitting 74 (oneLine message).toList) ++ "…" := by
  have hlist : (message.toList.map fun c => if c = '\n' then ' ' else c) =
      (oneLine message).toList := String.toList_map.symm
  simp only [shortError, hlist, byteLength_toList, maxErrorLength, String.ofList_toList,
    String.ofList_append]

/-- How a line is shown: whole, or cut behind its longest beginning of at most 74 bytes, which is
where the search backwards from byte 74 stops. -/
inductive ShownAs (line : String) : String → Prop
  | whole (h : line.utf8ByteSize ≤ 75) : ShownAs line line
  | cut {front rest : String} (hlong : 75 < line.utf8ByteSize) (hfront : line = front ++ rest)
      (hplace : front.utf8ByteSize = boundaryBelow line 74) (hlow : 71 ≤ front.utf8ByteSize)
      (hhigh : front.utf8ByteSize ≤ 74)
      (hlongest : ∀ longer others : String, line = longer ++ others → longer.utf8ByteSize ≤ 74 →
        longer.utf8ByteSize ≤ front.utf8ByteSize) : ShownAs line (front ++ "…")

/-- A long line is cut less than four bytes in front of the limit: a character has no more. -/
theorem shownAs_cut {line : String} (hlong : 75 < line.utf8ByteSize) :
    ShownAs line (String.ofList (fitting 74 line.toList) ++ "…") := by
  obtain ⟨rest, hrest⟩ := fitting_prefix 74 line.toList
  have hfront : line = String.ofList (fitting 74 line.toList) ++ String.ofList rest := by
    rw [← String.ofList_append, hrest, String.ofList_toList]
  have hhigh := byteLength_fitting_le 74 line.toList
  have hlow : 71 ≤ byteLength (fitting 74 line.toList) := by
    have hsize : byteLength (fitting 74 line.toList) + byteLength rest = line.utf8ByteSize := by
      rw [← byteLength_append, hrest, byteLength_toList]
    cases rest with
    | nil =>
      simp only [byteLength] at hsize
      omega
    | cons c rest =>
      have hnext := fitting_next hrest.symm c rfl
      have hwidth := c.utf8Size_le_four
      omega
  rw [← utf8ByteSize_ofList] at hlow hhigh
  refine .cut hlong hfront ?_ hlow hhigh ?_
  · rw [boundaryBelow_fitting hfront, utf8ByteSize_ofList]
  · intro longer others hlonger hfits
    have hprefix : longer.toList <+: line.toList :=
      ⟨others.toList, by rw [hlonger, String.toList_append]⟩
    have hroom : byteLength longer.toList ≤ 74 := by rwa [byteLength_toList]
    have hle := byteLength_le_fitting hprefix hroom
    rwa [utf8ByteSize_ofList, ← byteLength_toList]

theorem shortError_shownAs (message : String) :
    ShownAs (oneLine message) (shortError message) := by
  rw [shortError_eq]
  split
  case isTrue hfits => exact .whole hfits
  case isFalse hlong => exact shownAs_cut (Nat.lt_of_not_le hlong)

namespace ShownAs

variable {line short : String}

theorem newline_not_mem (h : ShownAs line short) (hline : '\n' ∉ line.toList) :
    '\n' ∉ short.toList := by
  cases h with
  | whole => exact hline
  | cut _ hfront =>
    rw [hfront, String.toList_append] at hline
    rw [String.toList_append]
    intro hmem
    rcases List.mem_append.1 hmem with h | h
    · exact hline (List.mem_append_left _ h)
    · exact absurd h (by decide)

theorem length_le (h : ShownAs line short) : short.length ≤ 75 := by
  have hchars : ∀ s : String, s.length ≤ s.utf8ByteSize := by
    intro s
    rw [← byteLength_toList, ← String.length_toList]
    exact length_le_byteLength s.toList
  cases h with
  | whole hfits => exact Nat.le_trans (hchars line) hfits
  | @cut front _ _ _ _ _ hhigh =>
    have hone : "…".length = 1 := rfl
    have hfront := hchars front
    rw [String.length_append, hone]
    omega

theorem utf8ByteSize_le (h : ShownAs line short) : short.utf8ByteSize ≤ 77 := by
  cases h with
  | whole hfits => omega
  | cut _ _ _ _ hhigh =>
    have hellipsis : "…".utf8ByteSize = 3 := rfl
    rw [String.utf8ByteSize_append, hellipsis]
    omega

/-- What is shown is shown as it is: it fits, or the cut is made at the same place again. -/
theorem shortError_again (h : ShownAs line short) (hline : '\n' ∉ line.toList) :
    shortError short = short := by
  have hsame := oneLine_eq (h.newline_not_mem hline)
  rw [shortError_eq, hsame]
  split
  case isTrue => rfl
  case isFalse hlong =>
    cases h with
    | whole hfits => exact absurd hfits hlong
    | @cut front _ _ _ _ _ hhigh =>
      have hellipsis : "…".utf8ByteSize = 3 := rfl
      have hchars : "…".toList = ['…'] := by decide
      have hwidth : '…'.utf8Size = 3 := by decide
      rw [String.utf8ByteSize_append, hellipsis] at hlong
      have hcut : fitting 74 (front ++ "…").toList = front.toList := by
        rw [String.toList_append, hchars]
        refine fitting_append (by rwa [byteLength_toList]) ?_
        rintro _ ⟨⟩
        rw [byteLength_toList, hwidth]
        omega
      rw [hcut, String.ofList_toList]

end ShownAs

/-- The short form of an error is one line of at most 75 characters. It is the whole error if that
has at most 75 bytes, and else its longest beginning of at most 74 bytes with an ellipsis; the
search for the place of the cut goes back no further than to byte 71. A short form is its own short
form, although it may have 77 bytes. -/
theorem shortError_shape :
    (∀ message, '\n' ∉ (shortError message).toList ∧ (shortError message).length ≤ 75 ∧
      ShownAs (oneLine message) (shortError message) ∧
      shortError (shortError message) = shortError message ∧
      (shortError message).utf8ByteSize ≤ 77) ∧
    ∃ message, (shortError message).utf8ByteSize = 77 := by
  refine ⟨fun message => ?_, "".pushn 'x' 76, by decide +kernel⟩
  have hline := newline_not_mem_oneLine message
  have hshown := shortError_shownAs message
  exact ⟨hshown.newline_not_mem hline, hshown.length_le, hshown, hshown.shortError_again hline,
    hshown.utf8ByteSize_le⟩

end Rollout
