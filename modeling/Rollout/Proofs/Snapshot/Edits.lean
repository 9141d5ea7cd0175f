import Rollout.Proofs.Snapshot.Forms

/-!
Edits of snapshots. An edit changes the text of a record at any level: it moves members, puts in
ones that no field has, or spells them with other blanks (`Edits`). The value stays the same. To
leave a member out is to give its default (`Leaves`).
-/

namespace Rollout

open Json

/-! ## Records within records -/

/-- A text that can stand for a record. -/
inductive Stands : Text → Prop
  | object (pad : Blanks) (ms : List Member) : Stands (object pad ms)
  | array (pad : Blanks) (is : List Item) : Stands (array pad is)

theorem Stands.spelled {v : Text} (h : Stands v) : Spelled v := by
  cases h with
  | object pad ms => exact spelled_object pad ms
  | array pad is => exact spelled_array pad is

theorem Stands.not_null {v : Text} (h : Stands v) (r : Text) : skipBlank v ≠ some 'n' :: r := by
  cases h <;> exact fun hnull => nomatch hnull

/-- The value of the field is a record, or else nothing. -/
inductive Holds (f : Json.Field α) (inner : Record β) : Prop
  | always (set : β → α → α) : f.Sets inner.reader set → Holds f inner
  | optional (set : Option β → α → α) : f.Sets inner.reader.option set → Holds f inner

variable {form : Record α} {inner : Record β} {f : Json.Field α} {depth : Nat}

/-- What a field gives depends on its record only. -/
theorem Holds.gives_iff (h : Holds f inner) : ∃ set : β → α → α, ∀ depth v s, Stands v →
    (f.read.Gives depth v s ↔ ∃ b, inner.reader.Gives depth v b ∧ set b = s) := by
  cases h with
  | always set hset =>
    refine ⟨set, fun depth v s _ => ?_⟩
    rw [Field.Sets] at hset
    rw [hset, Reader.gives_map]
  | optional set hset =>
    refine ⟨fun b => set (some b), fun depth v s hv => ?_⟩
    have hsome : ∀ o, inner.reader.option.Gives depth v o ↔
        ∃ b, inner.reader.Gives depth v b ∧ some b = o := by
      intro o
      rw [Reader.Gives, Reader.option_some hv.not_null]
      exact Reader.gives_map
    rw [Field.Sets] at hset
    rw [hset, Reader.gives_map]
    constructor
    · rintro ⟨o, ho, rfl⟩
      obtain ⟨b, hb, rfl⟩ := (hsome o).1 ho
      exact ⟨b, hb, rfl⟩
    · rintro ⟨b, hb, rfl⟩
      exact ⟨some b, (hsome _).2 ⟨b, hb, rfl⟩, rfl⟩

theorem Holds.same (h : Holds f inner) {v w : Text} (hv : Stands v) (hw : Stands w)
    (hsame : ∀ b, inner.reader.Gives depth v b → inner.reader.Gives depth w b) {s : α → α}
    (hs : f.read.Gives depth v s) : f.read.Gives depth w s := by
  obtain ⟨set, hset⟩ := h.gives_iff
  obtain ⟨b, hb, rfl⟩ := (hset _ _ _ hv).1 hs
  exact (hset _ _ _ hw).2 ⟨b, hsame b hb, rfl⟩

theorem Holds.both (h : Holds f inner) {v w u : Text} (hv : Stands v) (hw : Stands w)
    (hu : Stands u)
    (hboth : ∀ b, inner.reader.Gives depth v b →
      ∃ b', inner.reader.Gives depth w b' ∧ inner.reader.Gives depth u b') {s : α → α}
    (hs : f.read.Gives depth v s) :
    ∃ s', f.read.Gives depth w s' ∧ f.read.Gives depth u s' := by
  obtain ⟨set, hset⟩ := h.gives_iff
  obtain ⟨b, hb, rfl⟩ := (hset _ _ _ hv).1 hs
  obtain ⟨b', hfirst, hsecond⟩ := hboth b hb
  exact ⟨set b', (hset _ _ _ hw).2 ⟨b', hfirst, rfl⟩, (hset _ _ _ hu).2 ⟨b', hsecond, rfl⟩⟩

/-! ## Edits that change no value -/

/-- A text of a record and the text after some edits: members change places, ones that no field has
come in anywhere, and a member is spelled otherwise. The same happens in the records that fields
hold, at any depth. -/
inductive Edits : {α : Type} → Record α → Text → Text → Prop
  | permute {α : Type} {form : Record α} (pad pad' : Blanks) {ms ns : List Member} :
      ms.Perm ns → Edits form (object pad ms) (object pad' ns)
  | insert {α : Type} {form : Record α} (pad : Blanks) (before after : List Member) {m : Member} :
      m.name ∉ form.fields.map Field.key →
      Edits form (object pad (before ++ after)) (object pad (before ++ m :: after))
  | respell {α : Type} {form : Record α} (pad : Blanks) (before after : List Member)
      {m n : Member} : m.name = n.name → m.value = n.value →
      Edits form (object pad (before ++ m :: after)) (object pad (before ++ n :: after))
  | inside {α β : Type} {form : Record α} {inner : Record β} {f : Json.Field α} (pad : Blanks)
      (before after : List Member) {m n : Member} : f ∈ form.fields → m.name = f.key →
      n.name = f.key → WireForm inner → Holds f inner → Edits inner m.value n.value →
      Edits form (object pad (before ++ m :: after)) (object pad (before ++ n :: after))
  | within {α β : Type} {form : Record α} {inner : Record β} {f : Json.Field α} (pad : Blanks)
      (before after : List Item) {i j : Item} : form.fields[before.length]? = some f →
      WireForm inner → Holds f inner → Edits inner i.value j.value →
      Edits form (array pad (before ++ i :: after)) (array pad (before ++ j :: after))
  | trans {α : Type} {form : Record α} {s t u : Text} :
      Edits form s t → Edits form t u → Edits form s u

theorem Edits.stands {s t : Text} (h : Edits form s t) : Stands s ∧ Stands t := by
  induction h with
  | permute | insert | respell | inside => exact ⟨.object _ _, .object _ _⟩
  | within => exact ⟨.array _ _, .array _ _⟩
  | trans _ _ hfirst hsecond => exact ⟨hfirst.1, hsecond.2⟩

theorem Edits.gives {s t : Text} (hedits : Edits form s t) (hform : WireForm form) :
    ∀ {depth a}, form.reader.Gives depth s a → form.reader.Gives depth t a := by
  induction hedits with
  | permute pad pad' hperm =>
    intro depth a hs
    have h := hform.orderly
    obtain ⟨d, rfl, hsettles⟩ := (Record.gives_object h.exact).1 hs
    exact (Record.gives_object h.exact).2 ⟨d, rfl, hsettles.perm h hperm⟩
  | insert pad before after hforeign =>
    intro depth a hs
    have h := hform.orderly
    obtain ⟨d, rfl, hsettles⟩ := (Record.gives_object h.exact).1 hs
    refine (Record.gives_object h.exact).2 ⟨d, rfl, ?_⟩
    rw [Record.settles_middle h]
    exact hsettles.foreign (Record.field?_eq_none.2 hforeign)
  | @respell α form pad before after m n hname hvalue =>
    intro depth a hs
    exact Record.gives_replaced hform.orderly hname (fun _ _ _ _ hset => hvalue ▸ hset) hs
  | @inside α β form inner f pad before after m n hf hm hn hinner hholds hedits ih =>
    intro depth a hs
    obtain ⟨hstands, hstands'⟩ := hedits.stands
    refine Record.gives_replaced hform.orderly (hm.trans hn.symm) (fun depth g hg set hset => ?_) hs
    -- The field of that name is the one that holds the record, and it gives what the record gives.
    rw [hform.orderly.field?.2 ⟨hf, hm.symm⟩] at hg
    cases hg
    exact hholds.same hstands hstands' (fun _ => ih hinner) hset
  | @within α β form inner f pad before after i j hf hinner hholds hedits ih =>
    intro depth a hs
    have h := hform.orderly
    obtain ⟨hstands, hstands'⟩ := hedits.stands
    obtain ⟨d, rfl, hplaces⟩ := (Record.gives_array h.exact).1 hs
    exact (Record.gives_array h.exact).2 ⟨d, rfl, hplaces.replace
      (fun _ hset => hholds.same hstands hstands' (fun _ => ih hinner) hset) hf⟩
  | trans _ _ hfirst hsecond => exact fun hs => hsecond hform (hfirst hform hs)

/-! ## Members that are left out -/

/-- A text of a record, the text without one of its members that has a default, and the text with
the default instead. -/
inductive Leaves : {α : Type} → Record α → Text → Text → Text → Prop
  | here {α : Type} {form : Record α} {f : Json.Field α} (pad : Blanks) (before after : List Member)
      {m d : Member} : f ∈ form.fields → f.required = false → m.name = f.key → d.name = f.key →
      form.Defaults f d.value →
      Leaves form (object pad (before ++ m :: after)) (object pad (before ++ after))
        (object pad (before ++ d :: after))
  | inside {α β : Type} {form : Record α} {inner : Record β} {f : Json.Field α} (pad : Blanks)
      (before after : List Member) {m n d : Member} : f ∈ form.fields → m.name = f.key →
      n.name = f.key → d.name = f.key → WireForm inner → Holds f inner →
      Leaves inner m.value n.value d.value →
      Leaves form (object pad (before ++ m :: after)) (object pad (before ++ n :: after))
        (object pad (before ++ d :: after))
  | within {α β : Type} {form : Record α} {inner : Record β} {f : Json.Field α} (pad : Blanks)
      (before after : List Item) {i n d : Item} : form.fields[before.length]? = some f →
      WireForm inner → Holds f inner → Leaves inner i.value n.value d.value →
      Leaves form (array pad (before ++ i :: after)) (array pad (before ++ n :: after))
        (array pad (before ++ d :: after))

theorem Leaves.stands {s t u : Text} (h : Leaves form s t u) : Stands s ∧ Stands t ∧ Stands u := by
  cases h with
  | here | inside => exact ⟨.object _ _, .object _ _, .object _ _⟩
  | within => exact ⟨.array _ _, .array _ _, .array _ _⟩

theorem Leaves.gives {s t u : Text} (hleaves : Leaves form s t u) (hform : WireForm form) :
    ∀ {depth a}, form.reader.Gives depth s a →
      ∃ b, form.reader.Gives depth t b ∧ form.reader.Gives depth u b := by
  induction hleaves with
  | here pad before after hf hoptional hm hd hdefault =>
    intro depth a hs
    have h := hform.orderly
    obtain ⟨d, rfl, hsettles⟩ := (Record.gives_object h.exact).1 hs
    rw [Record.settles_middle h] at hsettles
    obtain ⟨b, hwithout, hgiven⟩ := hsettles.default h hf hoptional hm hd hdefault
    exact ⟨b, (Record.gives_object h.exact).2 ⟨d, rfl, hwithout⟩,
      (Record.gives_object h.exact).2 ⟨d, rfl, (Record.settles_middle h).2 hgiven⟩⟩
  | @inside α β form inner f pad before after m n d hf hm hn hd hinner hholds hleaves ih =>
    intro depth a hs
    have h := hform.orderly
    obtain ⟨hstands, hwithout, hgiven⟩ := hleaves.stands
    obtain ⟨e, rfl, hsettles⟩ := (Record.gives_object h.exact).1 hs
    rw [Record.settles_middle h] at hsettles
    obtain ⟨b, hfirst, hsecond⟩ := hsettles.both (h.field?.2 ⟨hf, hm.symm⟩) (hn.trans hm.symm)
      (hd.trans hm.symm) fun _ hset =>
        hholds.both hstands hwithout hgiven (fun _ => ih hinner) hset
    exact ⟨b, (Record.gives_object h.exact).2 ⟨e, rfl, (Record.settles_middle h).2 hfirst⟩,
      (Record.gives_object h.exact).2 ⟨e, rfl, (Record.settles_middle h).2 hsecond⟩⟩
  | @within α β form inner f pad before after i n d hf hinner hholds hleaves ih =>
    intro depth a hs
    have h := hform.orderly
    obtain ⟨hstands, hwithout, hgiven⟩ := hleaves.stands
    obtain ⟨e, rfl, hplaces⟩ := (Record.gives_array h.exact).1 hs
    obtain ⟨b, hfirst, hsecond⟩ := hplaces.both (fun _ hset =>
      hholds.both hstands hwithout hgiven (fun _ => ih hinner) hset) hf
    exact ⟨b, (Record.gives_array h.exact).2 ⟨e, rfl, hfirst⟩,
      (Record.gives_array h.exact).2 ⟨e, rfl, hsecond⟩⟩

/-! ## Whole texts -/

/-- Every text that is read as a record of the wire is an object or a list. Edits of it at any
level, members in another order and foreign ones among them, do not change what it is read as, and
a member that has a default can be left out for it. -/
theorem edits_keep_value (hform : WireForm form) :
    (∀ depth s a r, form.reader depth s = .ok (a, r) →
      (∃ (ws pad : Blanks) (ms : List Member), s = ws.text ++ (object pad ms ++ r)) ∨
        ∃ (ws pad : Blanks) (is : List Item), s = ws.text ++ (array pad is ++ r)) ∧
    (∀ s t, Edits form s t → ∀ (front back : Blanks) a,
      form.reader.run (front.text ++ (s ++ back.text)) = .ok a →
        form.reader.run (front.text ++ (t ++ back.text)) = .ok a) ∧
    (∀ s t u, Leaves form s t u → ∀ (front back : Blanks) a,
      form.reader.run (front.text ++ (s ++ back.text)) = .ok a →
        ∃ b, form.reader.run (front.text ++ (t ++ back.text)) = .ok b ∧
          form.reader.run (front.text ++ (u ++ back.text)) = .ok b) ∧
    ∀ f ∈ form.fields, f.required = false → HasDefault form f := by
  have hexact := Record.reader_exact hform.orderly.exact
  have hrun : ∀ {v : Text}, Stands v → ∀ (front back : Blanks) a,
      form.reader.run (front.text ++ (v ++ back.text)) = .ok a ↔ form.reader.Gives 128 v a :=
    fun hv => Reader.run_eq_ok hexact hv.spelled
  refine ⟨fun _ _ _ _ hread => Record.reader_ok hform.orderly.exact hread, ?_, ?_, hform.default⟩
  · intro s t hedits front back a hs
    obtain ⟨hstands, hstands'⟩ := hedits.stands
    rw [hrun hstands] at hs
    rw [hrun hstands']
    exact hedits.gives hform hs
  · intro s t u hleaves front back a hs
    obtain ⟨hstands, hwithout, hgiven⟩ := hleaves.stands
    rw [hrun hstands] at hs
    obtain ⟨b, ht, hu⟩ := hleaves.gives hform hs
    exact ⟨b, (hrun hwithout _ _ _).2 ht, (hrun hgiven _ _ _).2 hu⟩

private def member (name : String)
    (spells : readString (Text.ofString name ++ [some '"']) = .ok (name, [])) {value : Text}
    (spelled : Spelled value) : Member :=
  ⟨.none, Text.ofString name, .none, .none, value, .none, name, spells, spelled⟩

private def label (body : String) : Text := Text.ofString ("\"" ++ body ++ "\"")

private theorem spelled_n : Spelled (label "n") :=
  .text (.plain (by decide) (by decide) (by decide) .nil)

private theorem spelled_down : Spelled (label "down") :=
  .text (.plain (by decide) (by decide) (by decide) (.plain (by decide) (by decide) (by decide)
    (.plain (by decide) (by decide) (by decide) (.plain (by decide) (by decide) (by decide) .nil))))

private def identity : Member := member "ID" rfl spelled_n
private def state : Member := member "State" rfl spelled_down
private def address : Member := member "Addr" rfl spelled_zero
private def status (ms : List Member) : Member := member "Status" rfl (spelled_object .none ms)

private def statusField : Json.Field Node :=
  .optional "Status" nodeStatusForm.reader fun x n => { n with state := x }

/-- The status of a node comes first and says its address, and the node is still the same; so it is
for a node whose status is left out and one whose status says nothing. -/
theorem edits_of_node :
    Node.form.reader.run
        (Text.ofString "\x7b\"Status\":\x7b\"Addr\":0,\"State\":\"down\"\x7d,\"ID\":\"n\"\x7d") =
      .ok ⟨"n", .down⟩ ∧
    ∃ b, Node.form.reader.run (Text.ofString "\x7b\"ID\":\"n\"\x7d") = .ok b ∧
      Node.form.reader.run (Text.ofString "\x7b\"ID\":\"n\",\"Status\":\x7b\x7d\x7d") = .ok b := by
  obtain ⟨-, hedits, hleaves, -⟩ := edits_keep_value WireForm.node
  have hfield : Holds statusField nodeStatusForm := .always _ rfl
  have hmem : statusField ∈ Node.form.fields := .tail _ (.head _)
  have hnode : Node.form.reader.run (Blanks.none.text ++
      (object .none [identity, status [state]] ++ Blanks.none.text)) = .ok ⟨"n", .down⟩ := by
    rfl
  refine ⟨?_, ?_⟩
  · have haddress : Edits nodeStatusForm (object .none [state]) (object .none [address, state]) :=
      .insert .none [] [state] (by decide)
    have hstatus : Edits Node.form (object .none [identity, status [state]])
        (object .none [identity, status [address, state]]) :=
      .inside .none [identity] [] hmem rfl rfl .nodeStatus hfield haddress
    exact hedits _ _ (hstatus.trans (.permute .none .none (.swap _ _ _))) .none .none _ hnode
  · have hdefault : Node.form.Defaults statusField (object .none []) :=
      Record.defaults_of_sets rfl
        (fun _ _ _ hw => Record.gives_blank nodeStatus_orderly.exact (by decide) hw) rfl
    have hstatus : Leaves Node.form (object .none [identity, status [state]])
        (object .none [identity]) (object .none [identity, status []]) :=
      .here .none [identity] [] hmem rfl rfl rfl hdefault
    exact hleaves _ _ _ hstatus .none .none _ hnode

private def halfPair : Text := Text.ofString "\\ud800"

private def nameless : Entry .object where
  label := some '"' :: (halfPair ++ [some '"', some ':'])
  isLabel := .object .none .none .none (.code (by decide) .nil)
  value := Text.ofString "0"
  trail := .none

/-- A foreign key has to spell a name all the same: one half of a surrogate pair spells none, and
the object it stands in is refused. -/
theorem nameless_member_refused :
    Node.form.reader.run (Text.ofString "\x7b\"ID\":\"n\"\x7d") = .ok ⟨"n", .unknown⟩ ∧
    InString halfPair ∧ (readString (halfPair ++ [some '"'])).toOption = none ∧
    Spelled (Text.ofString "\x7b\"ID\":\"n\",\"\\ud800\":0\x7d") ∧
    (Node.form.reader.run
      (Text.ofString "\x7b\"ID\":\"n\",\"\\ud800\":0\x7d")).toOption = none := by
  refine ⟨rfl, .code (by decide) .nil, by decide +kernel, ?_, by decide +kernel⟩
  show Spelled (compound .object .none [identity.entry, nameless])
  refine .compound .none fun e he => ?_
  rcases List.mem_cons.1 he with rfl | he
  · exact spelled_n
  · obtain rfl := List.mem_singleton.1 he
    exact spelled_zero

end Rollout
