import Rollout.Proofs.Url.Parse

/-!
Controls and blanks in a host. Folding, composing and decoding keep them, so that they are still
there when the name is looked through: a host that ends in one is refused (`Host.ofText_control`).
-/

namespace Rollout.Url

theorem not_control_of_lt {c : Char} (h : 0x20 < c.toNat) : isControl c = false := by
  simpa [isControl] using h

/-! ## Folding -/

theorem has_control {c : Char} (h : isControl c = true) {ranges : Unicode.Ranges}
    (hall : ∀ r ∈ ranges, 0x20 < r.1) : ranges.has c = false := by
  have hc := isControl_iff.1 h
  simp only [Unicode.Ranges.has, List.any_eq_false, Bool.and_eq_true, decide_eq_true_eq]
  rintro r hr ⟨hfirst, -⟩
  exact absurd (hall r hr) (by omega)

theorem fold?_control {c : Char} (h : isControl c = true) : Name.fold? c = some [c] := by
  have hc := isControl_iff.1 h
  have hruns : ∀ r ∈ Name.runs, 0x20 < r.first := by decide +kernel
  have hrows : ∀ r ∈ Name.formRows, 0x20 < r.1 := by decide +kernel
  have hform : Name.form? c = none := by
    have hno : Name.runs.findSome? (fun r => (r.form? c.toNat).map fun n => [Char.ofNat n]) =
        none := by
      rw [List.findSome?_eq_none_iff]
      intro r hr
      have hlt := hruns r hr
      rw [Name.Run.form?, if_neg (by omega), Option.map_none]
    rw [Name.form?, has_control h (by decide +kernel), if_neg (by simp), hno,
      Option.orElse_eq_orElse, Option.orElse_eq_or, Option.none_or, List.findSome?_eq_none_iff]
    intro row hrow
    obtain ⟨r, hr, rfl⟩ := List.mem_map.1 hrow
    have hlt := hrows r hr
    exact if_neg (by omega)
  rw [Name.fold?, hform, has_control h (by decide +kernel)]
  rfl

/-! ## Composing -/

set_option maxRecDepth 2000 in
theorem composites_above : ∀ row ∈ Unicode.compositeRows,
    0x20 < (Char.ofNat row.1).toNat ∧ ∀ c ∈ row.2.toList, 0x20 < c.toNat := by
  -- Row by row, with the text of each as a list of characters, which is fast to look through.
  have hcons : ∀ {n : Nat} {text : String} {cs : List Char} {rows : List (Nat × String)},
      text = String.ofList cs →
      (decide (0x20 < (Char.ofNat n).toNat) && cs.all fun c => 0x20 < c.toNat) = true →
      (∀ row ∈ rows, 0x20 < (Char.ofNat row.1).toNat ∧ ∀ c ∈ row.2.toList, 0x20 < c.toNat) →
      ∀ row ∈ (n, text) :: rows,
        0x20 < (Char.ofNat row.1).toNat ∧ ∀ c ∈ row.2.toList, 0x20 < c.toNat := by
    rintro n _ cs rows rfl hrow hrows
    rw [Bool.and_eq_true, decide_eq_true_eq, List.all_eq_true] at hrow
    exact List.forall_mem_cons.2 ⟨by simpa using hrow, hrows⟩
  unfold Unicode.compositeRows
  repeat refine hcons rfl (by decide +kernel) ?_
  exact List.forall_mem_nil _

theorem mem_pairsOf {p : Char × Char} {cs : List Char} (h : p ∈ Unicode.pairsOf cs) :
    p.1 ∈ cs ∧ p.2 ∈ cs := by
  fun_induction Unicode.pairsOf cs with
  | case1 a c cs ih =>
    obtain rfl | h := List.mem_cons.1 h
    · simp
    · simp [ih h]
  | case2 => cases h

/-- No character that has parts is a control, and neither are the parts. -/
theorem composites_not_control {second : Char} {pairs : List (Char × Char)}
    (h : (second, pairs) ∈ Unicode.composites) : isControl second = false ∧
      ∀ p ∈ pairs, isControl p.1 = false ∧ isControl p.2 = false := by
  obtain ⟨row, hrow, heq⟩ := List.mem_map.1 h
  cases heq
  obtain ⟨hsecond, hall⟩ := composites_above row hrow
  refine ⟨not_control_of_lt hsecond, fun p hp => ?_⟩
  obtain ⟨h1, h2⟩ := mem_pairsOf hp
  exact ⟨not_control_of_lt (hall _ h1), not_control_of_lt (hall _ h2)⟩

theorem compose?_not_control {a b c : Char} (h : Unicode.compose? a b = some c) :
    isControl a = false ∧ isControl b = false := by
  rw [Unicode.compose?, Option.orElse_eq_orElse, Option.orElse_eq_or, Option.or_eq_some_iff] at h
  obtain hsyllable | ⟨-, hpair⟩ := h
  · have habove : 0x20 < a.toNat ∧ 0x20 < b.toNat := by
      grind [Unicode.syllable?, Unicode.firstLead, Unicode.firstVowel, Unicode.firstSyllable,
        Unicode.noTail]
    exact ⟨not_control_of_lt habove.1, not_control_of_lt habove.2⟩
  · obtain ⟨⟨second, pairs⟩, hmem, hfound⟩ := List.exists_of_findSome?_eq_some hpair
    obtain ⟨hsecond, hpairs⟩ := composites_not_control hmem
    simp only at hfound
    split at hfound
    · rename_i heq
      rw [beq_iff_eq] at heq
      obtain ⟨front, back, rfl, -⟩ := List.lookup_eq_some_iff.1 hfound
      exact ⟨(hpairs (a, c) (by simp)).1, heq ▸ hsecond⟩
    · cases hfound

theorem parts?_control {c : Char} (h : isControl c = true) : Unicode.parts? c = none := by
  have hc := isControl_iff.1 h
  have hsyllable : Unicode.syllableParts? c = none := by
    rw [Unicode.syllableParts?, if_neg]
    rw [Unicode.firstSyllable]
    omega
  rw [Unicode.parts?, hsyllable, Option.orElse_eq_orElse, Option.orElse_eq_or, Option.none_or,
    List.findSome?_eq_none_iff]
  rintro ⟨second, pairs⟩ hmem
  rw [Option.map_eq_none_iff, List.find?_eq_none]
  intro p hp heq
  have hp2 := ((composites_not_control hmem).2 p hp).2
  rw [beq_iff_eq.1 heq, h] at hp2
  cases hp2

theorem mem_place {c d : Char} {cs : List Char} : c ∈ Unicode.place d cs ↔ c = d ∨ c ∈ cs := by
  fun_induction Unicode.place d cs with
  | case1 => simp
  | case2 e cs _ ih => simp [ih, or_left_comm]
  | case3 e cs _ => simp

theorem mem_arrange {c : Char} {cs : List Char} : c ∈ Unicode.arrange cs ↔ c ∈ cs := by
  induction cs with
  | nil => simp [Unicode.arrange]
  | cons d cs ih => rw [Unicode.arrange, List.foldr_cons, mem_place, ← Unicode.arrange, ih,
      List.mem_cons]

theorem mem_joinTo {c : Char} (hc : isControl c = true) (letter : Char) (kept : List Char)
    (last : Nat) (cs : List Char) (h : c = letter ∨ c ∈ kept ∨ c ∈ cs) :
    c ∈ Unicode.joinTo letter kept last cs := by
  have hne : ∀ {a b d : Char}, Unicode.compose? a b = some d → c ≠ a ∧ c ≠ b := by
    intro a b d hd
    obtain ⟨ha, hb⟩ := compose?_not_control hd
    exact ⟨ne_of_control hc ha, ne_of_control hc hb⟩
  fun_induction Unicode.joinTo letter kept last cs with
  | case1 letter kept last => simpa using h
  | case2 letter kept last d ds k joined hjoined ih =>
    -- What is joined is no control, and neither is what it is joined to.
    split at hjoined
    · obtain ⟨h1, h2⟩ := hne hjoined
      refine ih ?_
      simp only [List.mem_cons, h1, h2, false_or] at h
      exact .inr h
    · cases hjoined
  | case3 letter kept last d ds k hnone hk ih =>
    simp only [List.mem_cons, List.mem_append, List.mem_reverse] at h ⊢
    obtain h | h | h | h := h
    · exact .inl (.inl h)
    · exact .inl (.inr h)
    · exact .inr (ih (.inl h))
    · exact .inr (ih (.inr (.inr h)))
  | case4 letter kept last d ds k hnone hk ih =>
    refine ih ?_
    simp only [List.mem_cons] at h ⊢
    obtain h | h | h | h := h
    · exact .inl h
    · exact .inr (.inl (.inr h))
    · exact .inr (.inl (.inl h))
    · exact .inr (.inr h)

theorem mem_joined {c : Char} (hc : isControl c = true) {cs : List Char} (h : c ∈ cs) :
    c ∈ Unicode.joined cs := by
  induction cs with
  | nil => cases h
  | cons d ds ih =>
    rw [Unicode.joined]
    split
    · exact mem_joinTo hc d [] 0 ds (by simpa using h)
    · obtain rfl | h := List.mem_cons.1 h
      · exact List.mem_cons_self
      · exact List.mem_cons_of_mem _ (ih h)

/-- A control in a text is still there when the text is composed. -/
theorem mem_composed {c : Char} (hc : isControl c = true) {cs : List Char} (h : c ∈ cs) :
    c ∈ Unicode.composed cs := by
  refine mem_joined hc (mem_arrange.2 (List.mem_flatMap.2 ⟨c, h, ?_⟩))
  rw [Unicode.maxParts, Unicode.apart, parts?_control hc]
  exact List.mem_cons_self

/-! ## Names -/

theorem mem_of_mapM {α β : Type} {f : α → Option β} {as : List α} {bs : List β}
    (h : as.mapM f = some bs) {a : α} (ha : a ∈ as) : ∃ b, f a = some b ∧ b ∈ bs := by
  induction as generalizing bs with
  | nil => cases ha
  | cons d ds ih =>
    rw [List.mapM_cons] at h
    obtain ⟨b, hb, h⟩ := Option.bind_eq_some_iff.1 h
    obtain ⟨rest, hrest, h⟩ := Option.bind_eq_some_iff.1 h
    cases h
    obtain rfl | ha := List.mem_cons.1 ha
    · exact ⟨b, hb, List.mem_cons_self⟩
    · obtain ⟨b', hb', hmem⟩ := ih hrest ha
      exact ⟨b', hb', List.mem_cons_of_mem _ hmem⟩

theorem mem_forms {c : Char} (hc : isControl c = true) {text : List Char}
    {forms : List (List Char)} (h : text.mapM Name.fold? = some forms) (hmem : c ∈ text) :
    c ∈ forms.flatten := by
  obtain ⟨form, hform, hin⟩ := mem_of_mapM h hmem
  rw [fold?_control hc] at hform
  cases hform
  exact List.mem_flatten.2 ⟨[c], hin, List.mem_cons_self⟩

theorem ascii?_control {c : Char} (hc : isControl c = true) {text : List Char} (h : c ∈ text) :
    Name.ascii? text = none := by
  cases hforms : text.mapM Name.fold? with
  | none => simp [Name.ascii?, hforms]
  | some forms =>
    have hforbidden : (Unicode.composed forms.flatten).any Name.isForbidden = true := by
      refine List.any_eq_true.2 ⟨c, mem_composed hc (mem_forms hc hforms h), ?_⟩
      simp [Name.isForbidden, isControl_iff.1 hc]
    rw [Name.ascii?, hforms]
    simp only [bind, Option.bind, hforbidden, if_pos]

/-! ## Decoding -/

theorem bytesOf_control {c : Char} (h : isControl c = true) : bytesOf c = [c.toNat.toUInt8] := by
  exact control_forall (fun c => bytesOf c = [c.toNat.toUInt8]) (by decide +kernel) h

theorem hexValue?_control {c : Char} (h : isControl c = true) : hexValue? c = none := by
  exact control_forall (fun c => hexValue? c = none) (by decide +kernel) h

/-- A character that is no part of an escape is decoded to its bytes. -/
theorem bytesOf_subset_decode {c : Char} {cs : List Char} (h : c ∈ cs) (hpercent : c ≠ '%')
    (hdigit : hexValue? c = none) : bytesOf c ⊆ decode cs := by
  fun_induction decode cs with
  | case1 a b cs m n hb ha ih =>
    have hne : ∀ d k, hexValue? d = some k → c ≠ d := by
      rintro d k hd rfl
      rw [hdigit] at hd
      cases hd
    simp only [List.mem_cons, hpercent, hne a m ha, hne b n hb, false_or] at h
    exact List.subset_cons_of_subset _ (ih h)
  | case2 a b cs _ ih =>
    rw [List.mem_cons, or_iff_right hpercent] at h
    exact List.subset_cons_of_subset _ (ih h)
  | case3 d cs _ ih =>
    obtain rfl | h := List.mem_cons.1 h
    · exact List.subset_append_left _ _
    · exact List.subset_append_of_subset_right _ (ih h)
  | case4 => cases h

theorem start_low {b : UInt8} {p : Utf8.Begun} (h : Utf8.start b = .begun p) : 0x80 ≤ p.low := by
  unfold Utf8.start at h
  dsimp only at h
  repeat' split at h
  all_goals simp only [reduceCtorEq, Utf8.Start.begun.injEq] at h
  all_goals simp [← h]

theorem start_control {b : UInt8} (hle : b ≤ 0x20) :
    Utf8.start b = .char (Char.ofNat b.toNat) := by
  have hascii : b ≤ 0x7F := UInt8.le_trans hle (by decide)
  rw [Utf8.start, if_pos hascii]

/-- A byte of a control is a piece of its own, unless a character in front of it is broken. -/
theorem piecesFrom_control {b : UInt8} (hle : b ≤ 0x20) {bs : List UInt8} (hb : b ∈ bs)
    (begun : Option Utf8.Begun) (hlow : ∀ p ∈ begun, 0x80 ≤ p.low) :
    .char (Char.ofNat b.toNat) ∈ Utf8.piecesFrom begun bs ∨
      ∃ n, .broken n ∈ Utf8.piecesFrom begun bs := by
  induction bs generalizing begun with
  | nil => cases hb
  | cons d ds ih =>
    have htail : ∀ {front : Utf8.Piece} {next : Option Utf8.Begun}, b ∈ ds →
        (∀ p ∈ next, 0x80 ≤ p.low) →
        .char (Char.ofNat b.toNat) ∈ front :: Utf8.piecesFrom next ds ∨
          ∃ n, .broken n ∈ front :: Utf8.piecesFrom next ds := fun hmem hnext =>
      (ih hmem _ hnext).imp (List.mem_cons_of_mem _)
        fun ⟨n, hn⟩ => ⟨n, List.mem_cons_of_mem _ hn⟩
    cases begun with
    | none =>
      rw [Utf8.piecesFrom]
      obtain rfl | hmem := List.mem_cons.1 hb
      · rw [start_control hle]
        exact .inl List.mem_cons_self
      · cases hstart : Utf8.start d with
        | char c => exact htail hmem (by simp)
        | begun p => exact ih hmem _ (by simpa using start_low hstart)
        | broken => exact .inr ⟨1, List.mem_cons_self⟩
    | some p =>
      rw [Utf8.piecesFrom]
      split
      · rename_i hrange
        rw [Bool.and_eq_true, decide_eq_true_eq] at hrange
        have hmem : b ∈ ds := by
          refine (List.mem_cons.1 hb).resolve_left ?_
          rintro rfl
          have hlow := UInt8.le_trans (UInt8.le_trans (hlow p rfl) hrange.1) hle
          revert hlow
          decide
        split
        · exact htail hmem (by simp)
        · refine ih hmem _ fun q hq => ?_
          rw [← Option.mem_some_iff.1 hq]
          exact UInt8.le_refl 0x80
      · exact .inr ⟨p.used, List.mem_cons_self⟩

/-- A text that is spelt in full has the controls of its bytes. -/
theorem text?_control {bs : List UInt8} {b : UInt8} (hb : b ∈ bs) (hle : b ≤ 0x20) {text : String}
    (h : Utf8.text? bs = some text) : Char.ofNat b.toNat ∈ text.toList := by
  obtain ⟨cs, hcs, rfl⟩ := Option.map_eq_some_iff.1 h
  rw [String.toList_ofList]
  obtain hchar | ⟨n, hbroken⟩ := piecesFrom_control hle hb none (by simp)
  · obtain ⟨c, hc, hmem⟩ := mem_of_mapM hcs hchar
    cases hc
    exact hmem
  · obtain ⟨c, hc, -⟩ := mem_of_mapM hcs hbroken
    cases hc

theorem getLast?_cons_eq {c d : Char} {cs : List Char} (h : (d :: cs).getLast? = some c)
    (hne : c ≠ d) : cs.getLast? = some c := by
  cases hcs : cs.getLast? with
  | none =>
    rw [List.getLast?_cons, hcs] at h
    exact absurd (Option.some.inj h).symm hne
  | some e => rwa [List.getLast?_cons, hcs] at h

/-- A host that ends in a control or a blank is refused. -/
theorem Host.ofText_control {cs : List Char} {c : Char} (hlast : cs.getLast? = some c)
    (hc : isControl c = true) : ∃ flaw, Host.ofText cs = .error flaw := by
  have hle := isControl_iff.1 hc
  have hne : ∀ d, isControl d = false → c ≠ d := fun d hd => ne_of_control hc hd
  unfold Host.ofText
  split
  · rename_i rest
    have hreverse := getLast?_cons_eq hlast (hne '[' (by decide))
    rw [← List.head?_reverse] at hreverse
    obtain ⟨inner, hinner⟩ := List.head?_eq_some_iff.1 hreverse
    refine ⟨.badIpv6, ?_⟩
    unfold Host.ofBrackets
    rw [hinner]
    split
    · rename_i heq
      exact absurd (List.cons.inj heq).1 (hne ']' (by decide))
    · rfl
  · have hnone : ((Utf8.text? (decode cs)).bind fun text => Name.ascii? text.toList) = none := by
      rw [Option.bind_eq_none_iff]
      intro text htext
      have hbyte : c.toNat.toUInt8 ∈ decode cs := by
        have hsubset := bytesOf_subset_decode (List.mem_of_getLast? hlast) (hne '%' (by decide)) ?_
        · rw [bytesOf_control hc] at hsubset
          exact hsubset List.mem_cons_self
        · exact hexValue?_control hc
      have hnat : c.toNat.toUInt8.toNat = c.toNat := Nat.mod_eq_of_lt (by omega)
      have hmem := text?_control hbyte (UInt8.le_iff_toNat_le.2 (by rw [hnat]; exact hle)) htext
      have hback : Char.ofNat c.toNat.toUInt8.toNat = c := by rw [hnat, Char.ofNat_toNat]
      rw [hback] at hmem
      exact ascii?_control hc hmem
    rw [hnone]
    exact ⟨.badName, rfl⟩

/-! ## Authorities -/

theorem portOf_controls {s : Scheme} {ks : List Char} (hks : ∀ k ∈ ks, isControl k = true)
    (hne : ks ≠ []) (cs : List Char) : portOf s (cs ++ ks) = .error .badPort := by
  obtain ⟨k, rest, rfl⟩ := List.exists_cons_of_ne_nil hne
  have hk : k.isDigit = false :=
    control_forall (fun k => k.isDigit = false) (by decide +kernel) (hks k List.mem_cons_self)
  rw [portOf, if_pos]
  simp [hk]

/-- An authority that ends in controls or blanks is refused. -/
theorem ofAuthority_controls {s : Scheme} (hs : s.isSpecial = true) {authority ks : List Char}
    (ha : ∀ c ∈ authority, endsAuthority s c = false) (hks : ∀ k ∈ ks, isControl k = true)
    (hne : ks ≠ []) : ∃ flaw, ofAuthority s (authority ++ ks) = .error flaw := by
  have hall : ∀ c ∈ authority ++ ks, endsAuthority s c = false := fun c hc =>
    (List.mem_append.1 hc).elim (ha c) fun hc => endsAuthority_of_control (hks c hc)
  have hend : ∀ c ∈ ([] : List Char).head?, endsAuthority s c = true := by simp
  have halone := Authority.split_append hs hall hend
  rw [List.append_nil] at halone
  have hplace := splitHost_append_controls (s := s) hks (placeIn authority) false
  rw [← placeIn_append_controls hks] at hplace
  rw [ofAuthority, halone]
  simp only [hs, if_pos]
  cases (hostIn s (authority ++ ks)).isEmpty with
  | true => exact ⟨.emptyHost, rfl⟩
  | false =>
    by_cases hport : (splitHost s false (placeIn authority)).2 = []
    · rw [if_pos hport] at hplace
      have hhost : hostIn s (authority ++ ks) = (splitHost s false (placeIn authority)).1 ++ ks :=
        congrArg Prod.fst hplace
      obtain ⟨k, hk⟩ : ∃ k, ks.getLast? = some k := ⟨_, List.getLast?_eq_some_getLast hne⟩
      obtain ⟨flaw, hflaw⟩ := Host.ofText_control
        (show (hostIn s (authority ++ ks)).getLast? = some k by simp [hhost, hk])
        (hks k (List.mem_of_getLast? hk))
      rw [hflaw]
      exact ⟨flaw, rfl⟩
    · rw [if_neg hport] at hplace
      have hrest : portIn s (authority ++ ks) =
          ((splitHost s false (placeIn authority)).2 ++ ks).drop 1 :=
        congrArg (fun p => p.2.drop 1) hplace
      obtain ⟨c, ds, hds⟩ := List.exists_cons_of_ne_nil hport
      rw [hds, List.cons_append, List.drop_one, List.tail_cons] at hrest
      rw [hrest, portOf_controls hks hne]
      cases Host.ofText (hostIn s (authority ++ ks)) with
      | error flaw => exact ⟨flaw, rfl⟩
      | ok host => exact ⟨.badPort, rfl⟩

end Rollout.Url
