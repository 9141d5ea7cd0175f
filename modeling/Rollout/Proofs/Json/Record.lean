import Rollout.Json.Record
import Rollout.Proofs.Json.Reader

/-!
Laws of records. A record that is read has what its defaults have and every field keeps
(`reader_yields`), whether it comes as an object or as a list. An object whose members show the
fields of a value, in their order, is read as this value (`reader_reads`).
-/

namespace Rollout.Json

/-! ## What records give -/

/-- Whatever a field is given, it keeps the property of the value that is being built. -/
def Field.Keeps (f : Field α) (I : α → Prop) : Prop :=
  f.read.Yields fun set => ∀ a, I a → I (set a)

section

variable {I : α → Prop}

theorem Field.keeps_optional {read : Reader β} {P : β → Prop} (h : read.Yields P) (key : String)
    {set : β → α → α} (hset : ∀ b a, P b → I a → I (set b a)) :
    (Field.optional key read set).Keeps I :=
  Reader.Yields.map (h.weaken fun b hb a ha => hset b a hb ha)

theorem Field.keeps_must {read : Reader β} {P : β → Prop} (h : read.Yields P) (key : String)
    {set : β → α → α} (hset : ∀ b a, P b → I a → I (set b a)) :
    (Field.must key read set).Keeps I :=
  Reader.Yields.map (h.weaken fun b hb a ha => hset b a hb ha)

namespace Record

variable {form : Record α}

theorem member_keeps (hfields : ∀ f ∈ form.fields, f.Keeps I) {depth : Nat} {draft next : Draft α}
    {key : String} {s r : Text} (hvalue : I draft.value)
    (h : form.member depth draft key s = .ok (next, r)) : I next.value := by
  unfold member at h
  split at h
  case h_1 =>
    split at h
    case h_1 => cases h
    case h_2 =>
      obtain ⟨t, -, hsame⟩ := map_ok h
      cases hsame
      exact hvalue
  case h_2 f hfield =>
    split at h
    · cases h
    split at h
    · cases h
    split at h
    case h_1 => cases h
    case h_2 set _ hset =>
      cases h
      exact hfields f (List.mem_of_find?_eq_some hfield) _ _ _ _ hset _ hvalue

theorem members_keeps (hfields : ∀ f ∈ form.fields, f.Keeps I) (depth steps : Nat) :
    ∀ afterItem draft s a r, I draft.value →
      form.members depth steps afterItem draft s = .ok (a, r) → I a := by
  induction steps with
  | zero =>
    intro afterItem draft s a r _ h
    cases h
  | succ steps ih =>
    intro afterItem draft s a r hvalue h
    rw [members] at h
    split at h
    case h_1 => cases h
    case h_2 =>
      obtain ⟨b, hfinish, hsame⟩ := map_ok h
      cases hsame
      unfold finish at hfinish
      split at hfinish
      · cases hfinish
      · cases hfinish
        exact hvalue
    case h_3 =>
      split at h
      case h_1 => cases h
      case h_2 =>
        split at h
        case h_1 => cases h
        case h_2 hmember => exact ih _ _ _ _ _ (member_keeps hfields hvalue hmember) h

theorem inOrder_keeps (depth : Nat) (fs : List (Field α)) (hfields : ∀ f ∈ fs, f.Keeps I) :
    ∀ index a s b r, I a → form.inOrder depth fs index a s = .ok (b, r) → I b := by
  induction fs with
  | nil =>
    intro index a s b r ha h
    rw [inOrder] at h
    obtain ⟨t, -, hsame⟩ := map_ok h
    cases hsame
    exact ha
  | cons f fs ih =>
    intro index a s b r ha h
    rw [inOrder] at h
    split at h
    case h_1 => cases h
    case h_2 =>
      split at h
      case h_1 => cases h
      case h_2 =>
        obtain ⟨t, -, hsame⟩ := map_ok h
        cases hsame
        exact ha
    case h_3 =>
      split at h
      case h_1 => cases h
      case h_2 set _ hset =>
        have hnext : I (set a) := hfields f (by simp) _ _ _ _ hset a ha
        exact ih (fun g hg => hfields g (by simp [hg])) _ _ _ _ _ hnext h

/-- A record has what its defaults have and its fields keep. -/
theorem reader_yields (hblank : I form.blank) (hfields : ∀ f ∈ form.fields, f.Keeps I) :
    form.reader.Yields I := by
  intro depth s a r h
  obtain ⟨c, t, h⟩ := Reader.atValue_ok h
  split at h
  case isTrue =>
    obtain ⟨d, h⟩ := Reader.enter_ok h
    exact inOrder_keeps d form.fields hfields _ _ _ _ _ hblank h
  case isFalse =>
    split at h
    case isTrue =>
      obtain ⟨d, h⟩ := Reader.enter_ok h
      exact members_keeps hfields d _ _ ⟨form.blank, []⟩ _ _ _ hblank h
    case isFalse => cases h

end Record
end

/-! ## What records take -/

namespace Record

/-- Members in the order of some fields, with what they make of the value that is being built. A
field that need not be given may be left out. -/
inductive Shows (levels : Nat) : List (Field α) → List (List Char) → α → α → Prop
  | done {a : α} : Shows levels [] [] a a
  | given {f : Field α} {fs : List (Field α)} {text : List Char} {texts : List (List Char)}
      {set : α → α} {a b : α} : f.read.Reads levels text set → Shows levels fs texts (set a) b →
      Shows levels (f :: fs) (Print.member f.key text :: texts) a b
  | left {f : Field α} {fs : List (Field α)} {texts : List (List Char)} {a b : α} :
      f.required = false → Shows levels fs texts a b → Shows levels (f :: fs) texts a b

variable {form : Record α} {levels : Nat}

theorem field?_of_mem (hkeys : (form.fields.map Field.key).Nodup) {f : Field α}
    (hf : f ∈ form.fields) : form.field? f.key = some f := by
  unfold field?
  generalize form.fields = fs at hkeys hf
  induction fs with
  | nil => cases hf
  | cons g fs ih =>
    obtain ⟨hfirst, hrest⟩ := List.nodup_cons.1 hkeys
    rcases List.mem_cons.1 hf with rfl | hmem
    · simp
    · have hne : g.key ≠ f.key := by
        intro heq
        exact hfirst (heq ▸ List.mem_map_of_mem hmem)
      simp only [List.find?_cons, beq_false_of_ne hne, ih hrest hmem]

theorem key_printed (key : String) (s : Text) :
    Record.key ((Print.text key).map some ++ s) = .ok (key, s) := by
  have hstring := readString_escaped key s
  simpa [Record.key, Print.text] using hstring

/-- A member that was printed gives its field the value. -/
theorem member_printed (hkeys : (form.fields.map Field.key).Nodup) {f : Field α}
    (hf : f ∈ form.fields) {text : List Char} {set : α → α} (hread : f.read.Reads levels text set)
    {depth : Nat} (hdepth : levels < depth) (draft : Draft α) (hnew : f.key ∉ draft.seen)
    {s : Text} (hs : Ends s) :
    form.member depth draft f.key (some ':' :: (text.map some ++ s)) =
      .ok (⟨set draft.value, f.key :: draft.seen⟩, s) := by
  have hcolon : Reader.colon (some ':' :: (text.map some ++ s)) = .ok (text.map some ++ s) := rfl
  simp only [member, field?_of_mem hkeys hf, if_neg hnew, hcolon, hread.reads depth s hdepth hs]

/-- Behind the bracket, or behind the comma, a member starts with its key. -/
theorem next_member (key : String) (text : List Char) (afterItem : Bool) (texts : List (List Char))
    (rest : Text) :
    Reader.next .object afterItem
        ((Print.between afterItem (Print.member key text :: texts)).map some ++ some '}' :: rest) =
      .ok (.item ((Print.text key).map some ++ some ':' ::
        (text.map some ++ ((Print.between true texts).map some ++ some '}' :: rest)))) := by
  have hitem := Reader.next_item .object afterItem (show opensValue '"' = true by decide)
    ((key.toList.flatMap escape ++ ['"']).map some ++ some ':' ::
      (text.map some ++ ((Print.between true texts).map some ++ some '}' :: rest)))
  simpa [Print.between_cons, Print.member, Print.text] using hitem

/-- The first of some members is read and the others are left. -/
theorem members_printed (hkeys : (form.fields.map Field.key).Nodup) {f : Field α}
    (hf : f ∈ form.fields) {text : List Char} {set : α → α} (hread : f.read.Reads levels text set)
    {depth : Nat} (hdepth : levels < depth) (draft : Draft α) (hnew : f.key ∉ draft.seen)
    (steps : Nat) (afterItem : Bool) (texts : List (List Char)) (rest : Text) :
    form.members depth (steps + 1) afterItem draft
        ((Print.between afterItem (Print.member f.key text :: texts)).map some ++
          some '}' :: rest) =
      form.members depth steps true ⟨set draft.value, f.key :: draft.seen⟩
        ((Print.between true texts).map some ++ some '}' :: rest) := by
  let others := (Print.between true texts).map some ++ some '}' :: rest
  have hends : Ends others := ends_between texts .object rest
  have hmember := member_printed hkeys hf hread hdepth draft hnew hends
  rw [members, next_member]
  simp only [key_printed]
  rw [hmember]

/-- The keys seen so far are keys of the fields before, and no required one is missing. -/
structure Covers (before : List (Field α)) (seen : List String) : Prop where
  known : ∀ k ∈ seen, k ∈ before.map Field.key
  required : ∀ f ∈ before, f.required = true → f.key ∈ seen

section

variable {before : List (Field α)} {seen : List String} {f : Field α}

theorem covers_nil : Covers ([] : List (Field α)) [] := by
  constructor <;> simp

theorem Covers.given (h : Covers before seen) : Covers (before ++ [f]) (f.key :: seen) := by
  constructor
  · intro k hk
    rw [List.map_append]
    rcases List.mem_cons.1 hk with rfl | hk
    · simp
    · exact List.mem_append_left _ (h.known k hk)
  · intro g hg hneeded
    rcases List.mem_append.1 hg with hg | hg
    · exact List.mem_cons_of_mem _ (h.required g hg hneeded)
    · rw [List.mem_singleton.1 hg]
      exact List.mem_cons_self

theorem Covers.left (h : Covers before seen) (hoptional : f.required = false) :
    Covers (before ++ [f]) seen := by
  constructor
  · intro k hk
    rw [List.map_append]
    exact List.mem_append_left _ (h.known k hk)
  · intro g hg hneeded
    rcases List.mem_append.1 hg with hg | hg
    · exact h.required g hg hneeded
    · rw [List.mem_singleton.1 hg, hoptional] at hneeded
      cases hneeded

theorem Covers.new {fs : List (Field α)} (h : Covers before seen)
    (hkeys : ((before ++ f :: fs).map Field.key).Nodup) : f.key ∉ seen := by
  intro hold
  have hbefore := h.known f.key hold
  rw [List.map_append, List.map_cons] at hkeys
  exact (List.nodup_append.1 hkeys).2.2 _ hbefore _ (by simp) rfl

theorem Covers.finish (h : Covers form.fields seen) (a : α) : form.finish ⟨a, seen⟩ = .ok a := by
  have hgiven : form.fields.find? (fun f => f.required && f.key ∉ seen) = none := by
    rw [List.find?_eq_none]
    intro f hf hmissing
    simp only [Bool.and_eq_true, decide_eq_true_eq] at hmissing
    exact hmissing.2 (h.required f hf hmissing.1)
  simp only [Record.finish, hgiven]

end

/-- Members that show a value are read as this value, if those already seen leave nothing out. -/
theorem members_reads (hkeys : (form.fields.map Field.key).Nodup) {depth : Nat}
    (hdepth : levels < depth) (rest : Text) {fs : List (Field α)} {texts : List (List Char)}
    {a b : α} (h : Shows levels fs texts a b) :
    ∀ before seen, form.fields = before ++ fs → Covers before seen →
      ∀ steps afterItem, texts.length < steps →
        form.members depth steps afterItem ⟨a, seen⟩
          ((Print.between afterItem texts).map some ++ some '}' :: rest) = .ok (b, rest) := by
  induction h with
  | @done a =>
    intro before seen hform hcovers steps afterItem hsteps
    cases steps with
    | zero => exact absurd hsteps (Nat.not_lt_zero _)
    | succ steps =>
      have hclose := Reader.next_close .object afterItem rest
      have hfields : form.fields = before := by rw [hform, List.append_nil]
      have hfinish : form.finish ⟨a, seen⟩ = .ok a := Covers.finish (hfields ▸ hcovers) a
      rw [Bracket.closer] at hclose
      simp only [Print.between_nil, List.map_nil, List.nil_append, members, hclose, hfinish,
        Except.map]
  | @given f fs text texts set a b hread _ ih =>
    intro before seen hform hcovers steps afterItem hsteps
    cases steps with
    | zero => exact absurd hsteps (Nat.not_lt_zero _)
    | succ steps =>
      have hf : f ∈ form.fields := by simp [hform]
      have hnew : f.key ∉ seen := hcovers.new (hform ▸ hkeys)
      rw [members_printed hkeys hf hread hdepth ⟨a, seen⟩ hnew]
      exact ih (before ++ [f]) (f.key :: seen) (by simp [hform]) hcovers.given steps true
        (by simpa using hsteps)
  | @left f fs texts a b hoptional _ ih =>
    intro before seen hform hcovers steps afterItem hsteps
    exact ih (before ++ [f]) seen (by simp [hform]) (hcovers.left hoptional) steps afterItem hsteps

theorem map_object (texts : List (List Char)) (rest : Text) :
    (Print.object texts).map some ++ rest =
      some '{' :: ((Print.between false texts).map some ++ some '}' :: rest) := by
  simp [Print.object, Print.between]

/-- An object with members that show a value is read as this value. -/
theorem reader_reads (hkeys : (form.fields.map Field.key).Nodup) {texts : List (List Char)} {b : α}
    (h : Shows levels form.fields texts form.blank b) :
    form.reader.Reads (levels + 1) (Print.object texts) b := by
  refine ⟨⟨'{', _, rfl, by decide⟩, ?_⟩
  intro depth rest hdepth hrest
  obtain ⟨d, rfl⟩ : ∃ d, depth = d + 2 := ⟨depth - 2, by omega⟩
  have hmembers := members_reads hkeys (show levels < d + 1 by omega) rest h [] [] rfl covers_nil
    _ false (length_lt_between texts .object rest)
  rw [map_object, reader, Reader.atValue_opensValue (by decide), if_neg (by decide), if_pos rfl,
    Reader.enter]
  exact hmembers

/-! ### Members of a field -/

section

variable {key : String} {read : Reader β} {fs : List (Field α)} {texts : List (List Char)}
  {a b : α}

theorem Shows.must {text : List Char} {x : β} {set : β → α → α} (h : read.Reads levels text x)
    (hrest : Shows levels fs texts (set x a) b) :
    Shows levels (.must key read set :: fs) (Print.member key text :: texts) a b :=
  .given (f := .must key read set) (h.map set) hrest

theorem Shows.optional {text : List Char} {x : β} {set : β → α → α} (h : read.Reads levels text x)
    (hrest : Shows levels fs texts (set x a) b) :
    Shows levels (.optional key read set :: fs) (Print.member key text :: texts) a b :=
  .given (f := .optional key read set) (h.map set) hrest

/-- A member that is left out when there is no value leaves the default, which has none. -/
theorem Shows.option {print : β → List Char} {o : Option β} {set : Option β → α → α}
    (h : ∀ x ∈ o, read.Reads levels (print x) x) (hnone : set none a = a)
    (hrest : Shows levels fs texts (set o a) b) :
    Shows levels (.optional key read.option set :: fs) (Print.optional key print o ++ texts) a
      b := by
  cases o with
  | none =>
    rw [hnone] at hrest
    exact .left rfl hrest
  | some x => exact .optional (h x rfl).option hrest

theorem Shows.lastOption {print : β → List Char} {o : Option β} {set : Option β → α → α}
    (h : ∀ x ∈ o, read.Reads levels (print x) x) (hnone : set none a = a) :
    Shows levels [.optional key read.option set] (Print.optional key print o) a (set o a) := by
  have hshows : Shows levels [.optional key read.option set] (Print.optional key print o ++ []) a
      (set o a) := .option h hnone .done
  rwa [List.append_nil] at hshows

end
end Record

end Rollout.Json
