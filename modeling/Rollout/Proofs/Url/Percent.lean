import Rollout.Proofs.Bytes
import Rollout.Url.Percent

/-!
Percent-encoding and back. What is encoded for a path is decoded to the same bytes as the text that
it was made of (`decode_encode`). Those are the bytes of the text itself where it has no escape in
it, and fewer where it has (`decode_plain`, `length_decode`).
-/

namespace Rollout.Url

theorem toList_loop (bs : ByteArray) (i : Nat) (done : List UInt8) :
    ByteArray.toList.loop bs i done = done.reverse ++ bs.data.toList.drop i := by
  fun_induction ByteArray.toList.loop bs i done with
  | case1 i done hi ih =>
    have hlt : i < bs.data.toList.length := by simpa using hi
    rw [ih, List.drop_eq_getElem_cons hlt]
    simp [ByteArray.get!, hi]
  | case2 i done hi =>
    rw [List.drop_eq_nil_of_le (by simpa using Nat.le_of_not_lt hi), List.append_nil]

theorem bytesOf_eq (c : Char) : bytesOf c = String.utf8EncodeChar c := by
  have hbytes : bytesOf c = bytes (String.singleton c) := toList_loop _ 0 []
  rw [hbytes, bytes_eq, String.toList_singleton, List.flatMap_singleton]

theorem bytesOf_ne_nil (c : Char) : bytesOf c ≠ [] := by
  rw [bytesOf_eq, ← List.length_pos_iff, String.length_utf8EncodeChar]
  exact c.utf8Size_pos

theorem bytes_ofList (cs : List Char) : bytes (String.ofList cs) = cs.flatMap bytesOf := by
  rw [bytes_eq, String.toList_ofList, funext bytesOf_eq]

theorem length_flatMap_le {cs ds : List Char} (h : cs.Sublist ds) :
    (cs.flatMap bytesOf).length ≤ (ds.flatMap bytesOf).length := by
  induction h with
  | slnil => exact Nat.le_refl _
  | cons d _ ih =>
    rw [List.flatMap_cons, List.length_append]
    omega
  | cons_cons d _ ih =>
    rw [List.flatMap_cons, List.flatMap_cons, List.length_append, List.length_append]
    omega

/-- A text has more bytes than what is left when some of its characters are taken out. -/
theorem eq_of_sublist_of_length {cs ds : List Char} (h : cs.Sublist ds)
    (hle : (ds.flatMap bytesOf).length ≤ (cs.flatMap bytesOf).length) : cs = ds := by
  induction h with
  | slnil => rfl
  | cons d h _ =>
    have hpos := List.length_pos_iff.2 (bytesOf_ne_nil d)
    have hrest := length_flatMap_le h
    rw [List.flatMap_cons, List.length_append] at hle
    omega
  | cons_cons d _ ih =>
    rw [List.flatMap_cons, List.flatMap_cons, List.length_append, List.length_append] at hle
    rw [ih (by omega)]

/-! ## Escapes -/

/-- The byte that a text begins with as an escape, and the text behind it. -/
def escape? : List Char → Option (UInt8 × List Char)
  | '%' :: a :: b :: cs =>
    match hexValue? a, hexValue? b with
    | some m, some n => some (UInt8.ofNat (m * 16 + n), cs)
    | _, _ => none
  | _ => none

/-- Does a text have an escape in it? -/
def hasEscape : List Char → Bool
  | [] => false
  | c :: cs => (escape? (c :: cs)).isSome || hasEscape cs

theorem escape?_eq_some {cs rest : List Char} {x : UInt8} : escape? cs = some (x, rest) ↔
    ∃ a b m n, cs = '%' :: a :: b :: rest ∧ hexValue? a = some m ∧ hexValue? b = some n ∧
      x = UInt8.ofNat (m * 16 + n) := by
  constructor
  · intro h
    unfold escape? at h
    split at h
    · rename_i a b cs
      split at h
      · rename_i m n hm hn
        cases h
        exact ⟨a, b, m, n, rfl, hm, hn, rfl⟩
      · cases h
    · cases h
  · rintro ⟨a, b, m, n, rfl, hm, hn, rfl⟩
    rw [escape?, hm, hn]

theorem decode_escape {cs rest : List Char} {x : UInt8} (h : escape? cs = some (x, rest)) :
    decode cs = x :: decode rest := by
  obtain ⟨a, b, m, n, rfl, hm, hn, rfl⟩ := escape?_eq_some.1 h
  rw [decode, hm, hn]

theorem decode_cons {c : Char} {cs : List Char} (h : escape? (c :: cs) = none) :
    decode (c :: cs) = bytesOf c ++ decode cs := by
  rw [decode.eq_def]
  split
  · rename_i a b rest heq
    cases heq
    split
    · rename_i m n hm hn
      rw [escape?, hm, hn] at h
      cases h
    · have hpercent : bytesOf '%' = ['%'.toNat.toUInt8] := by decide +kernel
      rw [hpercent, List.singleton_append]
  · rename_i heq
    cases heq
    rfl
  · rename_i heq
    cases heq

/-- A text is no longer in bytes than its escapes make it, and shorter if it has some. -/
theorem length_decode (cs : List Char) :
    (decode cs).length + (hasEscape cs).toNat ≤ (cs.flatMap bytesOf).length := by
  -- An escape is three characters, a byte each at least, and stands for one byte.
  induction h : cs.length using Nat.strongRecOn generalizing cs with
  | _ n ih =>
    subst h
    cases cs with
    | nil => simp [decode, hasEscape]
    | cons c cs =>
      have hpos : ∀ d, 0 < (bytesOf d).length := fun d => List.length_pos_iff.2 (bytesOf_ne_nil d)
      have hflag : ∀ b : Bool, b.toNat ≤ 1 := Bool.toNat_le
      cases he : escape? (c :: cs) with
      | none =>
        have hrest := ih cs.length (by simp) cs rfl
        rw [decode_cons he, hasEscape, he, List.flatMap_cons, List.length_append,
          List.length_append]
        simpa [Nat.add_assoc] using hrest
      | some found =>
        obtain ⟨x, rest⟩ := found
        obtain ⟨a, b, m, n, hsplit, -⟩ := escape?_eq_some.1 he
        have hrest := ih rest.length (by simp [hsplit]; omega) rest rfl
        rw [decode_escape he, hasEscape, he, hsplit]
        simp only [List.flatMap_cons, List.length_append, List.length_cons]
        have hc := hpos '%'
        have ha := hpos a
        have hb := hpos b
        have hone := hflag (Option.isSome (some (x, rest)) || hasEscape cs)
        omega

theorem decode_plain {cs : List Char} (h : hasEscape cs = false) :
    decode cs = cs.flatMap bytesOf := by
  induction cs with
  | nil => simp [decode]
  | cons c cs ih =>
    rw [hasEscape, Bool.or_eq_false_iff, Option.isSome_eq_false_iff, Option.isNone_iff_eq_none] at h
    rw [decode_cons h.1, ih h.2, List.flatMap_cons]

/-! ## Encoded texts -/

/-- Is a character written as bytes? -/
def isEncoded (inSet : Char → Bool) (c : Char) : Bool :=
  0x7E < c.toNat || c.toNat < 0x20 || inSet c

theorem encode_cons (inSet : Char → Bool) (c : Char) (cs : List Char) : encode inSet (c :: cs) =
    (if isEncoded inSet c then (bytesOf c).flatMap encodeByte else [c]) ++ encode inSet cs :=
  List.flatMap_cons

theorem encode_append (inSet : Char → Bool) (cs ds : List Char) :
    encode inSet (cs ++ ds) = encode inSet cs ++ encode inSet ds :=
  List.flatMap_append

theorem encode_eq_nil {inSet : Char → Bool} {cs : List Char} : encode inSet cs = [] ↔ cs = [] := by
  refine ⟨fun h => ?_, fun h => by rw [h]; rfl⟩
  cases cs with
  | nil => rfl
  | cons c cs =>
    rw [encode_cons, List.append_eq_nil_iff] at h
    split at h
    · obtain ⟨b, bs, hbs⟩ := List.exists_cons_of_ne_nil (bytesOf_ne_nil c)
      rw [hbs] at h
      simp [encodeByte] at h
    · simp at h

/-- What an encoded text is made of. -/
theorem mem_encode {inSet : Char → Bool} {c : Char} {cs : List Char} (h : c ∈ encode inSet cs) :
    c ∈ cs ∧ isEncoded inSet c = false ∨ c = '%' ∨ ∃ n, n < 16 ∧ c = upperHex n := by
  obtain ⟨d, hd, hc⟩ := List.mem_flatMap.1 h
  split at hc
  · obtain ⟨b, -, hb⟩ := List.mem_flatMap.1 hc
    have hlt : b.toNat < 256 := b.toNat_lt
    simp only [encodeByte, List.mem_cons, List.not_mem_nil, or_false] at hb
    obtain rfl | rfl | rfl := hb
    · exact .inr (.inl rfl)
    · exact .inr (.inr ⟨_, by omega, rfl⟩)
    · exact .inr (.inr ⟨_, by omega, rfl⟩)
  · rename_i hencoded
    rw [List.mem_singleton.1 hc]
    exact .inl ⟨hd, by simpa [isEncoded] using hencoded⟩

theorem hexValue_upperHex : ∀ n, n < 16 → hexValue? (upperHex n) = some n := by
  decide

theorem decode_encodeByte (b : UInt8) (cs : List Char) :
    decode (encodeByte b ++ cs) = b :: decode cs := by
  have hb : b.toNat < 256 := b.toNat_lt
  refine decode_escape (escape?_eq_some.2 ⟨_, _, _, _, rfl, hexValue_upperHex (b.toNat / 16) ?_,
    hexValue_upperHex (b.toNat % 16) ?_, ?_⟩)
  · omega
  · omega
  · rw [Nat.div_add_mod', UInt8.ofNat_toNat]

theorem decode_encodeBytes (bs : List UInt8) (cs : List Char) :
    decode (bs.flatMap encodeByte ++ cs) = bs ++ decode cs := by
  induction bs with
  | nil => rfl
  | cons b bs ih =>
    rw [List.flatMap_cons, List.append_assoc, decode_encodeByte, ih, List.cons_append]

theorem digit_not_encoded {c : Char} (h : (hexValue? c).isSome = true) :
    isEncoded inPathSet c = false := by
  have hall : ∀ n, n < 128 → (hexValue? (Char.ofNat n)).isSome = true →
      isEncoded inPathSet (Char.ofNat n) = false := by decide +kernel
  have hlt : c.toNat < 128 := by
    rw [hexValue?] at h
    split at h
    · simp_all [Char.isDigit, UInt32.le_iff_toNat_le]
      omega
    · split at h
      · simp_all [Char.le_def, UInt32.le_iff_toNat_le]
        omega
      · split at h
        · simp_all [Char.le_def, UInt32.le_iff_toNat_le]
          omega
        · cases h
  have hc : Char.ofNat c.toNat = c := Char.ofNat_toNat c
  rw [← hc] at h ⊢
  exact hall c.toNat hlt h

/-- A digit in front of an encoded text is one of the text itself. -/
theorem encode_eq_digit_cons {a : Char} {cs rest : List Char} (ha : (hexValue? a).isSome = true)
    (h : encode inPathSet cs = a :: rest) : ∃ cs', cs = a :: cs' ∧ encode inPathSet cs' = rest := by
  cases cs with
  | nil => cases h
  | cons c cs =>
    rw [encode_cons] at h
    split at h
    · obtain ⟨b, bs, hbs⟩ := List.exists_cons_of_ne_nil (bytesOf_ne_nil c)
      rw [hbs] at h
      obtain ⟨rfl, -⟩ := List.cons.inj h
      cases ha
    · obtain ⟨rfl, rfl⟩ := List.cons.inj h
      exact ⟨cs, rfl, rfl⟩

/-- Encoding leaves an escape in front as it is. -/
theorem encode_escape {cs rest : List Char} {x : UInt8} (h : escape? cs = some (x, rest)) :
    escape? (encode inPathSet cs) = some (x, encode inPathSet rest) := by
  obtain ⟨a, b, m, n, rfl, hm, hn, rfl⟩ := escape?_eq_some.1 h
  have ha := digit_not_encoded (c := a) (by rw [hm]; rfl)
  have hb := digit_not_encoded (c := b) (by rw [hn]; rfl)
  have hp : isEncoded inPathSet '%' = false := by decide
  simp only [encode_cons, ha, hb, hp]
  exact escape?_eq_some.2 ⟨a, b, m, n, rfl, hm, hn, rfl⟩

/-- Encoding makes no escape behind a character that begins none. -/
theorem encode_no_escape {c : Char} {cs : List Char} (h : escape? (c :: cs) = none) :
    escape? (c :: encode inPathSet cs) = none := by
  rw [Option.eq_none_iff_forall_ne_some]
  rintro ⟨x, rest⟩ hx
  obtain ⟨a, b, m, n, heq, hm, hn, rfl⟩ := escape?_eq_some.1 hx
  obtain ⟨rfl, hcs⟩ := List.cons.inj heq
  obtain ⟨ds, rfl, hds⟩ := encode_eq_digit_cons (by rw [hm]; rfl) hcs
  obtain ⟨es, rfl, -⟩ := encode_eq_digit_cons (by rw [hn]; rfl) hds
  rw [escape?, hm, hn] at h
  cases h

/-- An encoded text spells the same bytes as the text. -/
theorem decode_encode (cs : List Char) : decode (encode inPathSet cs) = decode cs := by
  induction h : cs.length using Nat.strongRecOn generalizing cs with
  | _ n ih =>
    subst h
    cases cs with
    | nil => rfl
    | cons c cs =>
      cases he : escape? (c :: cs) with
      | some found =>
        obtain ⟨x, rest⟩ := found
        obtain ⟨a, b, m, n, hsplit, -⟩ := escape?_eq_some.1 he
        rw [decode_escape he, decode_escape (encode_escape he),
          ih rest.length (by simp [hsplit]; omega) rest rfl]
      | none =>
        have hrest := ih cs.length (by simp) cs rfl
        rw [decode_cons he, encode_cons]
        split
        · rw [decode_encodeBytes, hrest]
        · rw [List.singleton_append, decode_cons (encode_no_escape he), hrest]

end Rollout.Url
