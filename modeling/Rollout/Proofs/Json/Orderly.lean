import Mathlib.Data.List.Nodup
import Mathlib.Data.List.Pairwise
import Mathlib.Data.List.Perm.Basic
import Rollout.Proofs.Json.Members

/-!
Records whose members may come in any order. What the members of an object settle is said without
their order (`Settles`): no field is given twice, no required one is missing, and what the members
give, applied in any order, makes the value. So members may change places (`Settles.perm`), foreign
ones may come in (`Settles.foreign`), and a member may be left out for its default
(`Settles.default`).
-/

namespace Rollout.Json

/-! ## Fields that do not meet -/

/-- It does not matter which of the fields is set first. -/
def Field.Apart (f g : Field α) : Prop :=
  ∀ depth v set depth' v' set', f.read.Gives depth v set → g.read.Gives depth' v' set' →
    ∀ a, set (set' a) = set' (set a)

/-- A field sets what a value is read as. -/
def Field.Sets (f : Field α) (read : Reader β) (set : β → α → α) : Prop := f.read = read.map set

theorem Field.Sets.apart {f g : Field α} {read : Reader β} {read' : Reader γ} {set : β → α → α}
    {set' : γ → α → α} (hf : f.Sets read set) (hg : g.Sets read' set')
    (h : ∀ x y a, set x (set' y a) = set' y (set x a)) : f.Apart g := by
  intro depth v s depth' v' s' hs hs' a
  rw [Field.Sets] at hf hg
  rw [hf, Reader.gives_map] at hs
  rw [hg, Reader.gives_map] at hs'
  obtain ⟨x, -, rfl⟩ := hs
  obtain ⟨y, -, rfl⟩ := hs'
  exact h x y a

namespace Record

/-- A record whose fields are read exactly, have names of their own and do not meet. -/
structure Orderly (form : Record α) : Prop where
  exact : form.Exact
  keys : (form.fields.map Field.key).Nodup
  apart : form.fields.Pairwise Field.Apart

variable {form : Record α} {depth : Nat}

theorem Orderly.field? (h : form.Orderly) {name : String} {f : Field α} :
    form.field? name = some f ↔ f ∈ form.fields ∧ f.key = name := by
  constructor
  · intro hf
    exact ⟨List.mem_of_find?_eq_some hf, by simpa using List.find?_some hf⟩
  · rintro ⟨hf, rfl⟩
    exact field?_of_mem h.keys hf

theorem field?_eq_none {name : String} :
    form.field? name = none ↔ name ∉ form.fields.map Field.key := by
  simp [Record.field?, List.find?_eq_none]

theorem Orderly.apart_of_ne (h : form.Orderly) {f g : Field α} (hf : f ∈ form.fields)
    (hg : g ∈ form.fields) (hne : f.key ≠ g.key) : f.Apart g := by
  have hsymm : ∀ {f g : Field α}, f.Apart g → g.Apart f :=
    fun hfg depth v set depth' v' set' hs hs' a => (hfg _ _ _ _ _ _ hs' hs a).symm
  have hpair : ∀ f ∈ form.fields, ∀ g ∈ form.fields, f ≠ g → f.Apart g := by
    have : Std.Symm (Field.Apart (α := α)) := ⟨fun _ _ => hsymm⟩
    exact fun f hf g hg => h.apart.forall hf hg
  exact hpair f hf g hg fun heq => hne (congrArg Field.key heq)

/-! ## What members settle -/

/-- What a member gives: a foreign one changes nothing. -/
def Part (form : Record α) (depth : Nat) (m : Member) (set : α → α) : Prop :=
  match form.field? m.name with
  | none => set = id
  | some f => f.read.Gives depth m.value set

theorem part_foreign {m : Member} {set : α → α} (h : form.field? m.name = none) :
    form.Part depth m set ↔ set = id := by
  rw [Part, h]

theorem part_own {m : Member} {f : Field α} {set : α → α} (h : form.field? m.name = some f) :
    form.Part depth m set ↔ f.read.Gives depth m.value set := by
  rw [Part, h]

def isDeclared (form : Record α) (m : Member) : Bool := (form.field? m.name).isSome

/-- The names of the fields that are given. -/
def declared (form : Record α) (ms : List Member) : List String :=
  (ms.filter form.isDeclared).map Member.name

structure Settles (form : Record α) (depth : Nat) (ms : List Member) (a : α) : Prop where
  once : (form.declared ms).Nodup
  given : ∀ f ∈ form.fields, f.required = true → f.key ∈ form.declared ms
  made : ∃ sets, List.Forall₂ (form.Part depth) ms sets ∧
    sets.foldl (fun a set => set a) form.blank = a

theorem declared_cons (m : Member) (ms : List Member) : form.declared (m :: ms) =
    if form.isDeclared m then m.name :: form.declared ms else form.declared ms := by
  rw [declared, List.filter_cons]
  split <;> rfl

/-- A draft has seen each field once, and what was given makes its value. -/
theorem fills_iff {ms : List Member} : ∀ {draft last : Draft α},
    Fills form depth draft ms last ↔
      (form.declared ms).Nodup ∧ (∀ name ∈ form.declared ms, name ∉ draft.seen) ∧
      ∃ sets, List.Forall₂ (form.Part depth) ms sets ∧
        last = ⟨sets.foldl (fun a set => set a) draft.value,
          (form.declared ms).reverse ++ draft.seen⟩ := by
  induction ms with
  | nil =>
    intro draft last
    rw [fills_nil]
    constructor
    · rintro rfl
      exact ⟨by simp [declared], by simp [declared], [], .nil, rfl⟩
    · rintro ⟨-, -, sets, hsets, rfl⟩
      cases hsets
      rfl
  | cons m ms ih =>
    intro draft last
    rw [declared_cons]
    cases hfield : form.field? m.name with
    | none =>
      have hforeign : form.isDeclared m = false := by simp [isDeclared, hfield]
      rw [hforeign, if_neg Bool.false_ne_true, fills_foreign hfield, ih]
      refine and_congr_right fun _ => and_congr_right fun _ => ?_
      constructor
      · rintro ⟨sets, hsets, rfl⟩
        exact ⟨id :: sets, .cons ((part_foreign hfield).2 rfl) hsets, rfl⟩
      · rintro ⟨sets, hsets, rfl⟩
        obtain ⟨set, others, hset, hothers, rfl⟩ := List.forall₂_cons_left_iff.1 hsets
        obtain rfl := (part_foreign hfield).1 hset
        exact ⟨others, hothers, rfl⟩
    | some f =>
      have hown : form.isDeclared m = true := by simp [isDeclared, hfield]
      rw [if_pos hown, List.nodup_cons, List.forall_mem_cons, fills_own hfield]
      constructor
      · rintro ⟨hunseen, set, hgives, hlast⟩
        obtain ⟨honce, hnew, sets, hsets, rfl⟩ := ih.1 hlast
        refine ⟨⟨fun hmem => hnew _ hmem List.mem_cons_self, honce⟩, ⟨hunseen, ?_⟩, _,
          .cons ((part_own hfield).2 hgives) hsets, by simp⟩
        exact fun name hname hseen => hnew name hname (List.mem_cons_of_mem _ hseen)
      · rintro ⟨⟨hfirst, honce⟩, ⟨hunseen, hnew⟩, sets, hsets, rfl⟩
        obtain ⟨set, others, hset, hothers, rfl⟩ := List.forall₂_cons_left_iff.1 hsets
        refine ⟨hunseen, set, (part_own hfield).1 hset,
          ih.2 ⟨honce, ?_, others, hothers, by simp⟩⟩
        intro name hname hseen
        rcases List.mem_cons.1 hseen with rfl | hseen
        · exact hfirst hname
        · exact hnew name hname hseen

theorem finish_eq_ok {draft : Draft α} {a : α} : form.finish draft = .ok a ↔
    (∀ f ∈ form.fields, f.required = true → f.key ∈ draft.seen) ∧ draft.value = a := by
  rw [finish]
  split
  case h_1 f hmissing =>
    have hf := List.mem_of_find?_eq_some hmissing
    have hunseen := List.find?_some hmissing
    simp only [Bool.and_eq_true, decide_eq_true_eq] at hunseen
    constructor
    · intro h
      cases h
    · rintro ⟨hgiven, -⟩
      exact (hunseen.2 (hgiven f hf hunseen.1)).elim
  case h_2 hgiven =>
    rw [List.find?_eq_none] at hgiven
    simp only [Bool.and_eq_true, decide_eq_true_eq, not_and, not_not] at hgiven
    rw [Except.ok.injEq]
    exact (and_iff_right hgiven).symm

theorem settles_iff {ms : List Member} {a : α} :
    (∃ last, Fills form depth ⟨form.blank, []⟩ ms last ∧ form.finish last = .ok a) ↔
      Settles form depth ms a := by
  constructor
  · rintro ⟨last, hfills, hfinish⟩
    obtain ⟨honce, -, sets, hsets, rfl⟩ := fills_iff.1 hfills
    obtain ⟨hgiven, hvalue⟩ := finish_eq_ok.1 hfinish
    exact ⟨honce, fun f hf hrequired => by simpa using hgiven f hf hrequired, sets, hsets, hvalue⟩
  · rintro ⟨honce, hgiven, sets, hsets, rfl⟩
    refine ⟨_, fills_iff.2 ⟨honce, by simp, sets, hsets, rfl⟩, finish_eq_ok.2 ⟨?_, rfl⟩⟩
    exact fun f hf hrequired => by simpa using hgiven f hf hrequired

/-! ## Members in another order -/

theorem mem_of_part {ms : List Member} {sets : List (α → α)}
    (h : List.Forall₂ (form.Part depth) ms sets) {set : α → α} (hset : set ∈ sets) :
    ∃ m ∈ ms, form.Part depth m set := by
  induction h with
  | nil => cases hset
  | cons hfirst _ ih =>
    rcases List.mem_cons.1 hset with rfl | hset
    · exact ⟨_, by simp, hfirst⟩
    · obtain ⟨m, hm, hpart⟩ := ih hset
      exact ⟨m, by simp [hm], hpart⟩

/-- Members that give no field twice give what can be applied in any order. -/
theorem Orderly.parts_commute (h : form.Orderly) {ms : List Member}
    (honce : (form.declared ms).Nodup) {m n : Member} (hm : m ∈ ms) (hn : n ∈ ms) {x y : α → α}
    (hx : form.Part depth m x) (hy : form.Part depth n y) (a : α) : x (y a) = y (x a) := by
  cases hf : form.field? m.name with
  | none =>
    obtain rfl := (part_foreign hf).1 hx
    rfl
  | some f =>
    cases hg : form.field? n.name with
    | none =>
      obtain rfl := (part_foreign hg).1 hy
      rfl
    | some g =>
      rw [part_own hf] at hx
      rw [part_own hg] at hy
      have hm' : m ∈ ms.filter form.isDeclared := by simp [hm, isDeclared, hf]
      have hn' : n ∈ ms.filter form.isDeclared := by simp [hn, isDeclared, hg]
      obtain ⟨hfmem, hfkey⟩ := h.field?.1 hf
      obtain ⟨hgmem, hgkey⟩ := h.field?.1 hg
      by_cases hname : m.name = n.name
      · -- No field is given twice, so it is one member.
        obtain rfl := List.inj_on_of_nodup_map honce hm' hn' hname
        rw [hf] at hg
        cases hg
        rw [hx.unique hy]
      · have hne : f.key ≠ g.key := by rw [hfkey, hgkey]; exact hname
        exact h.apart_of_ne hfmem hgmem hne _ _ _ _ _ _ hx hy a

theorem Settles.perm (h : form.Orderly) {ms ns : List Member} (hperm : ms.Perm ns) {a : α}
    (hms : Settles form depth ms a) : Settles form depth ns a := by
  obtain ⟨honce, hgiven, sets, hsets, rfl⟩ := hms
  have hdeclared : (form.declared ms).Perm (form.declared ns) := (hperm.filter _).map _
  obtain ⟨sets', hsets', hsame⟩ := List.perm_comp_forall₂ hperm.symm hsets
  refine ⟨hdeclared.nodup_iff.1 honce, fun f hf hrequired => ?_, sets', hsets', ?_⟩
  · exact hdeclared.mem_iff.1 (hgiven f hf hrequired)
  · refine (hsame.symm.foldl_eq' (fun x hx y hy a => ?_) form.blank).symm
    obtain ⟨m, hm, hpart⟩ := mem_of_part hsets hx
    obtain ⟨n, hn, hpart'⟩ := mem_of_part hsets hy
    exact h.parts_commute honce hn hm hpart' hpart a

/-- It does not matter where a member stands. -/
theorem settles_middle (h : form.Orderly) {before after : List Member} {m : Member} {a : α} :
    Settles form depth (before ++ m :: after) a ↔
      Settles form depth (m :: (before ++ after)) a :=
  ⟨.perm h List.perm_middle, .perm h List.perm_middle.symm⟩

/-! ## Members that come and go -/

theorem Settles.foreign {m : Member} {ms : List Member} {a : α}
    (hforeign : form.field? m.name = none) (h : Settles form depth ms a) :
    Settles form depth (m :: ms) a := by
  obtain ⟨honce, hgiven, sets, hsets, rfl⟩ := h
  have hdeclared : form.declared (m :: ms) = form.declared ms := by
    rw [declared_cons, if_neg]
    simp [isDeclared, hforeign]
  refine ⟨by rwa [hdeclared], by rwa [hdeclared], id :: sets, ?_, rfl⟩
  exact .cons ((part_foreign hforeign).2 rfl) hsets

/-- A member in the place of one with the same name that gives the same. -/
theorem Settles.replace {m n : Member} {ms : List Member} {a : α} (hname : m.name = n.name)
    (hvalue : ∀ f, form.field? m.name = some f → ∀ set, f.read.Gives depth m.value set →
      f.read.Gives depth n.value set) (h : Settles form depth (m :: ms) a) :
    Settles form depth (n :: ms) a := by
  obtain ⟨honce, hgiven, sets, hsets, rfl⟩ := h
  obtain ⟨set, others, hset, hothers, rfl⟩ := List.forall₂_cons_left_iff.1 hsets
  have hdeclared : form.declared (m :: ms) = form.declared (n :: ms) := by
    rw [declared_cons, declared_cons, isDeclared, isDeclared, hname]
  rw [hdeclared] at honce hgiven
  refine ⟨honce, hgiven, set :: others, .cons ?_ hothers, rfl⟩
  cases hf : form.field? m.name with
  | none => exact (part_foreign (hname ▸ hf)).2 ((part_foreign hf).1 hset)
  | some f => exact (part_own (hname ▸ hf)).2 (hvalue f hf set ((part_own hf).1 hset))

/-- Wherever the field can be read at all, this text is read there as its default. -/
def Defaults (form : Record α) (f : Field α) (v : Text) : Prop :=
  ∀ depth w set, f.read.Gives depth w set →
    ∃ set', f.read.Gives depth v set' ∧ set' form.blank = form.blank

/-- A field has a default text if what it sets can be read from one. -/
theorem defaults_of_sets {f : Field α} {read : Reader β} {set : β → α → α} {v : Text} {x : β}
    (hf : f.Sets read set) (hv : ∀ depth w y, read.Gives depth w y → read.Gives depth v x)
    (hblank : set x form.blank = form.blank) : form.Defaults f v := by
  intro depth w s hs
  rw [Field.Sets] at hf
  rw [hf, Reader.gives_map] at hs
  obtain ⟨y, hy, -⟩ := hs
  rw [hf]
  exact ⟨set x, Reader.gives_map.2 ⟨x, hv depth w y hy, rfl⟩, hblank⟩

/-- A member of a field with a default may be left out, or give the default instead. -/
theorem Settles.default (h : form.Orderly) {m d : Member} {ms : List Member} {a : α} {f : Field α}
    (hf : f ∈ form.fields) (hoptional : f.required = false) (hm : m.name = f.key)
    (hd : d.name = f.key) (hdefault : form.Defaults f d.value)
    (hms : Settles form depth (m :: ms) a) :
    ∃ b, Settles form depth ms b ∧ Settles form depth (d :: ms) b := by
  obtain ⟨honce, hgiven, sets, hsets, rfl⟩ := hms
  obtain ⟨set, others, hset, hothers, rfl⟩ := List.forall₂_cons_left_iff.1 hsets
  have hfield : form.field? m.name = some f := h.field?.2 ⟨hf, hm.symm⟩
  have hfield' : form.field? d.name = some f := h.field?.2 ⟨hf, hd.symm⟩
  obtain ⟨set', hgives, hblank⟩ := hdefault _ _ _ ((part_own hfield).1 hset)
  have hdeclared : form.declared (m :: ms) = f.key :: form.declared ms := by
    rw [declared_cons, if_pos (by simp [isDeclared, hfield]), hm]
  have hdeclared' : form.declared (d :: ms) = f.key :: form.declared ms := by
    rw [declared_cons, if_pos (by simp [isDeclared, hfield']), hd]
  rw [hdeclared] at honce hgiven
  refine ⟨others.foldl (fun a set => set a) form.blank,
    ⟨(List.nodup_cons.1 honce).2, fun g hg hrequired => ?_, others, hothers, rfl⟩,
    ⟨by rwa [hdeclared'], by rwa [hdeclared'], set' :: others,
      .cons ((part_own hfield').2 hgives) hothers, by rw [List.foldl_cons, hblank]⟩⟩
  rcases List.mem_cons.1 (hgiven g hg hrequired) with hkey | hmem
  · -- The field that is left out is none that has to be given.
    have hsame : some g = some f := by
      rw [← h.field?.2 ⟨hg, rfl⟩, ← h.field?.2 ⟨hf, rfl⟩, hkey]
    cases hsame
    rw [hoptional] at hrequired
    cases hrequired
  · exact hmem

/-- What is read at one place decides what two other texts there are read as. -/
theorem Settles.both {m n d : Member} {ms : List Member} {a : α} {f : Field α}
    (hf : form.field? m.name = some f) (hn : n.name = m.name) (hd : d.name = m.name)
    (hvalue : ∀ set, f.read.Gives depth m.value set →
      ∃ set', f.read.Gives depth n.value set' ∧ f.read.Gives depth d.value set')
    (h : Settles form depth (m :: ms) a) :
    ∃ b, Settles form depth (n :: ms) b ∧ Settles form depth (d :: ms) b := by
  obtain ⟨honce, hgiven, sets, hsets, rfl⟩ := h
  obtain ⟨set, others, hset, hothers, rfl⟩ := List.forall₂_cons_left_iff.1 hsets
  obtain ⟨set', hfirst, hsecond⟩ := hvalue set ((part_own hf).1 hset)
  have hdeclared : ∀ x : Member, x.name = m.name →
      form.declared (x :: ms) = form.declared (m :: ms) := by
    intro x hx
    rw [declared_cons, declared_cons, isDeclared, isDeclared, hx]
  refine ⟨_, ⟨by rwa [hdeclared n hn], by rwa [hdeclared n hn], set' :: others,
      .cons ((part_own (hn ▸ hf)).2 hfirst) hothers, rfl⟩,
    ⟨by rwa [hdeclared d hd], by rwa [hdeclared d hd], set' :: others,
      .cons ((part_own (hd ▸ hf)).2 hsecond) hothers, rfl⟩⟩

/-! ## Items of a list -/

theorem Places.replace {i j : Item} {f : Field α} {before after : List Item}
    (hvalue : ∀ set, f.read.Gives depth i.value set → f.read.Gives depth j.value set) :
    ∀ {fs : List (Field α)} {a b : α}, fs[before.length]? = some f →
      Places depth fs a (before ++ i :: after) b → Places depth fs a (before ++ j :: after) b := by
  induction before with
  | nil =>
    intro fs a b hf h
    cases h with
    | item hgives hrest =>
      obtain rfl := Option.some.inj hf
      exact .item (hvalue _ hgives) hrest
  | cons first before ih =>
    intro fs a b hf h
    cases h with
    | item hgives hrest => exact .item hgives (ih hf hrest)

/-- Whether items can be placed does not depend on the value they are placed in. -/
theorem Places.anywhere {fs : List (Field α)} {is : List Item} {a b : α}
    (h : Places depth fs a is b) : ∀ a', ∃ b', Places depth fs a' is b' := by
  induction h with
  | short hoptional => exact fun a' => ⟨a', .short hoptional⟩
  | @item f fs a b i is set hgives _ ih =>
    intro a'
    obtain ⟨b', hb'⟩ := ih (set a')
    exact ⟨b', .item hgives hb'⟩

theorem Places.both {i n d : Item} {f : Field α} {before after : List Item}
    (hvalue : ∀ set, f.read.Gives depth i.value set →
      ∃ set', f.read.Gives depth n.value set' ∧ f.read.Gives depth d.value set') :
    ∀ {fs : List (Field α)} {a b : α}, fs[before.length]? = some f →
      Places depth fs a (before ++ i :: after) b →
      ∃ c, Places depth fs a (before ++ n :: after) c ∧
        Places depth fs a (before ++ d :: after) c := by
  induction before with
  | nil =>
    intro fs a b hf h
    cases h with
    | item hgives hrest =>
      obtain rfl := Option.some.inj hf
      obtain ⟨set', hfirst, hsecond⟩ := hvalue _ hgives
      obtain ⟨c, hc⟩ := hrest.anywhere (set' a)
      exact ⟨c, .item hfirst hc, .item hsecond hc⟩
  | cons first before ih =>
    intro fs a b hf h
    cases h with
    | item hgives hrest =>
      obtain ⟨c, hfirst, hsecond⟩ := ih hf hrest
      exact ⟨c, .item hgives hfirst, .item hgives hsecond⟩

/-! ## Whole objects and lists -/

/-- A record takes two levels of the depth that is allowed: the last one stays unused. -/
theorem depth_of_gives {v : Text} {a : α} (h : form.reader.Gives depth v a) :
    ∃ d, depth = d + 2 := by
  obtain ⟨ws, c, t, -, -, hbody⟩ := Reader.atValue_inv h
  split at hbody
  case isTrue =>
    obtain ⟨d, hd, -⟩ := Reader.enter_inv hbody
    exact ⟨d, hd⟩
  case isFalse =>
    split at hbody
    case isTrue =>
      obtain ⟨d, hd, -⟩ := Reader.enter_inv hbody
      exact ⟨d, hd⟩
    case isFalse => cases hbody

theorem gives_object (h : form.Exact) {pad : Blanks} {ms : List Member} {a : α} :
    form.reader.Gives depth (object pad ms) a ↔
      ∃ d, depth = d + 2 ∧ Settles form (d + 1) ms a := by
  have hread := reader_object h depth .none pad ms [] a []
  rw [List.append_nil] at hread
  simp only [settles_iff, true_and] at hread
  exact hread

/-- A member in the place of another one that has the same name and gives the same. -/
theorem gives_replaced (h : form.Orderly) {pad : Blanks} {before after : List Member}
    {m n : Member} (hname : m.name = n.name)
    (hvalue : ∀ depth f, form.field? m.name = some f → ∀ set,
      f.read.Gives depth m.value set → f.read.Gives depth n.value set) {a : α}
    (hm : form.reader.Gives depth (object pad (before ++ m :: after)) a) :
    form.reader.Gives depth (object pad (before ++ n :: after)) a := by
  obtain ⟨d, rfl, hsettles⟩ := (gives_object h.exact).1 hm
  refine (gives_object h.exact).2 ⟨d, rfl, ?_⟩
  rw [settles_middle h] at hsettles ⊢
  exact hsettles.replace hname (hvalue (d + 1))

/-- An object without members is read as the defaults, if no field has to be given. -/
theorem gives_blank (h : form.Exact) (hoptional : ∀ f ∈ form.fields, f.required = false)
    {w : Text} {a : α} (hw : form.reader.Gives depth w a) :
    form.reader.Gives depth (object .none []) form.blank := by
  obtain ⟨d, rfl⟩ := depth_of_gives hw
  refine (gives_object h).2 ⟨d, rfl, List.nodup_nil, fun f hf hrequired => ?_, [], .nil, rfl⟩
  rw [hoptional f hf] at hrequired
  cases hrequired

theorem gives_array (h : form.Exact) {pad : Blanks} {is : List Item} {a : α} :
    form.reader.Gives depth (array pad is) a ↔
      ∃ d, depth = d + 2 ∧ Places (d + 1) form.fields form.blank is a := by
  have hread := reader_array h depth .none pad is [] a []
  rw [List.append_nil] at hread
  simp only [true_and] at hread
  exact hread

end Record
end Rollout.Json
