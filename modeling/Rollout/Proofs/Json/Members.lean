import Rollout.Json.Record
import Rollout.Proofs.Json.Exact
import Rollout.Proofs.Json.Record

/-!
Records in any spelling. An object is read as a record by what its members are named and what they
give their fields, in the order of the text (`reader_object`); a list by what its items give the
fields in declared order (`reader_array`). Every text that is read as a record is one of the two
(`reader_ok`), so a record whose fields have exact readers has one as well (`exact`).
-/

namespace Rollout.Json

/-! ## Members and items -/

/-- A member of an object as it is spelled, with the name that its key spells. -/
structure Member where
  lead : Blanks
  key : Text
  gap : Blanks
  space : Blanks
  value : Text
  trail : Blanks
  name : String
  spells : readString (key ++ [some '"']) = .ok (name, [])
  spelled : Spelled value

/-- An item of a list as it is spelled. -/
structure Item where
  lead : Blanks
  value : Text
  trail : Blanks
  spelled : Spelled value

theorem Member.key_ok (m : Member) :
    InString m.key ∧ ∀ rest, readString (m.key ++ some '"' :: rest) = .ok (m.name, rest) := by
  obtain ⟨body, hbody, hinString, hagain⟩ := readString_ok m.spells
  obtain rfl : m.key = body := List.append_cancel_right hbody
  exact ⟨hinString, hagain⟩

def Member.entry (m : Member) : Entry .object where
  label := m.lead.text ++ some '"' ::
    (m.key ++ some '"' :: (m.gap.text ++ some ':' :: m.space.text))
  isLabel := .object m.lead m.gap m.space m.key_ok.1
  value := m.value
  trail := m.trail

def Item.entry (i : Item) : Entry .list := ⟨i.lead.text, .list i.lead, i.value, i.trail⟩

def object (pad : Blanks) (ms : List Member) : Text := compound .object pad (ms.map Member.entry)

def array (pad : Blanks) (is : List Item) : Text := compound .list pad (is.map Item.entry)

theorem spelled_members (ms : List Member) : ∀ e ∈ ms.map Member.entry, Spelled e.value := by
  intro e he
  obtain ⟨m, -, rfl⟩ := List.mem_map.1 he
  exact m.spelled

theorem spelled_items (is : List Item) : ∀ e ∈ is.map Item.entry, Spelled e.value := by
  intro e he
  obtain ⟨i, -, rfl⟩ := List.mem_map.1 he
  exact i.spelled

theorem spelled_object (pad : Blanks) (ms : List Member) : Spelled (object pad ms) :=
  .compound pad (spelled_members ms)

theorem spelled_array (pad : Blanks) (is : List Item) : Spelled (array pad is) :=
  .compound pad (spelled_items is)

/-- Every item has a character to itself. -/
theorem length_le_between {b : Bracket} {es : List (Entry b)} (afterItem : Bool)
    (h : ∀ e ∈ es, Spelled e.value) : es.length ≤ (between afterItem es).length := by
  induction es generalizing afterItem with
  | nil => exact Nat.zero_le _
  | cons e es ih =>
    have hrest := ih true fun e' he' => h e' (by simp [he'])
    obtain ⟨c, t, hv, -⟩ := (h e (by simp)).eq_cons
    simp only [between, hv, List.length_append, List.length_cons]
    omega

/-! ## What stands next -/

namespace Reader

theorem next_end (b : Bracket) (afterItem : Bool) (ws : Blanks) (rest : Text) :
    next b afterItem (ws.text ++ some b.closer :: rest) = .ok (.close rest) := by
  rw [next, skipBlank_front ws (by cases b <;> decide)]
  simp

theorem next_start (b : Bracket) (afterItem : Bool) {c : Char} (hc : beginsValue c = true)
    (ws lead : Blanks) (s : Text) :
    next b afterItem
        (ws.text ++ ((if afterItem then [some ','] else []) ++ (lead.text ++ some c :: s))) =
      .ok (.item (some c :: s)) := by
  have hcloser : c ≠ b.closer := by cases b <;> exact beginsValue_ne hc (by decide)
  have hcomma : ',' ≠ b.closer := by cases b <;> decide
  have hblank := skipBlank_front lead (not_blank_of_beginsValue hc) s
  cases afterItem with
  | false => simp [next, skipBlank_blanks, hblank, hcloser]
  | true =>
    have hfront := skipBlank_front ws (show isBlank ',' = false by decide)
      (lead.text ++ some c :: s)
    simp [next, hfront, hblank, hcloser, hcomma]

theorem next_ok_close {b : Bracket} {afterItem : Bool} {s r : Text}
    (h : next b afterItem s = .ok (.close r)) :
    ∃ ws : Blanks, s = ws.text ++ some b.closer :: r := by
  unfold next at h
  split at h
  case h_1 => cases h
  case h_2 x t ht =>
    split at h
    case isTrue hx =>
      cases h
      subst hx
      exact skipBlank_eq ht
    case isFalse =>
      split at h
      · cases h
      split at h
      · split at h
        · cases h
        · split at h <;> cases h
      · cases h

theorem next_ok_item {b : Bracket} {afterItem : Bool} {s r : Text}
    (h : next b afterItem s = .ok (.item r)) :
    ∃ ws lead : Blanks,
      s = ws.text ++ ((if afterItem then [some ','] else []) ++ (lead.text ++ r)) := by
  unfold next at h
  split at h
  case h_1 => cases h
  case h_2 x t ht =>
    obtain ⟨ws, hs⟩ := skipBlank_eq ht
    split at h
    case isTrue => cases h
    case isFalse =>
      split at h
      case isTrue hfirst =>
        cases h
        have hafter : afterItem = false := by simpa using hfirst
        exact ⟨ws, .none, by rw [hs, hafter]; rfl⟩
      case isFalse hfirst =>
        have hafter : afterItem = true := by simpa using hfirst
        split at h
        case isFalse => cases h
        case isTrue hx =>
          split at h
          case h_1 => cases h
          case h_2 y u hu =>
            split at h
            case isTrue => cases h
            case isFalse =>
              cases h
              obtain ⟨lead, rfl⟩ := skipBlank_eq hu
              exact ⟨ws, lead, by rw [hs, hx, hafter]; rfl⟩

end Reader

/-! ## Objects -/

namespace Record

variable {form : Record α}

theorem key_ok {s r : Text} {name : String} (h : Record.key s = .ok (name, r)) :
    ∃ key, s = some '"' :: (key ++ some '"' :: r) ∧
      readString (key ++ [some '"']) = .ok (name, []) := by
  unfold Record.key at h
  split at h
  case h_1 =>
    obtain ⟨key, rfl, -, hagain⟩ := readString_ok h
    exact ⟨key, rfl, hagain []⟩
  case h_2 => cases h

/-- What the members make of a draft, one after the other. -/
inductive Fills (form : Record α) (depth : Nat) : Draft α → List Member → Draft α → Prop
  | none {draft : Draft α} : Fills form depth draft [] draft
  | foreign {draft last : Draft α} {m : Member} {ms : List Member} :
      form.field? m.name = .none → Fills form depth draft ms last →
      Fills form depth draft (m :: ms) last
  | own {draft last : Draft α} {m : Member} {ms : List Member} {f : Field α} {set : α → α} :
      form.field? m.name = some f → m.name ∉ draft.seen → f.read.Gives depth m.value set →
      Fills form depth ⟨set draft.value, m.name :: draft.seen⟩ ms last →
      Fills form depth draft (m :: ms) last

theorem fills_nil {depth : Nat} {draft last : Draft α} :
    Fills form depth draft [] last ↔ last = draft := by
  constructor
  · rintro ⟨⟩
    rfl
  · rintro rfl
    exact .none

theorem fills_foreign {depth : Nat} {draft last : Draft α} {m : Member} {ms : List Member}
    (h : form.field? m.name = none) :
    Fills form depth draft (m :: ms) last ↔ Fills form depth draft ms last := by
  constructor
  · intro hfills
    cases hfills with
    | foreign _ hlast => exact hlast
    | own hf => rw [h] at hf; cases hf
  · exact .foreign h

theorem fills_own {depth : Nat} {draft last : Draft α} {m : Member} {ms : List Member}
    {f : Field α} (h : form.field? m.name = some f) :
    Fills form depth draft (m :: ms) last ↔ m.name ∉ draft.seen ∧
      ∃ set, f.read.Gives depth m.value set ∧
        Fills form depth ⟨set draft.value, m.name :: draft.seen⟩ ms last := by
  constructor
  · intro hfills
    cases hfills with
    | foreign hf => rw [h] at hf; cases hf
    | own hf hnew hgives hlast =>
      rw [h] at hf
      cases hf
      exact ⟨hnew, _, hgives, hlast⟩
  · rintro ⟨hnew, set, hgives, hlast⟩
    exact .own h hnew hgives hlast

/-- Fields whose readers are exact. -/
def Exact (form : Record α) : Prop := ∀ f ∈ form.fields, f.read.Exact

theorem Exact.field (h : form.Exact) {name : String} {f : Field α}
    (hf : form.field? name = some f) : f.read.Exact :=
  h f (List.mem_of_find?_eq_some hf)

theorem ok_pair {a b : α} {s r : Text} :
    (Except.ok (a, s) : Except Fault (α × Text)) = .ok (b, r) ↔ r = s ∧ b = a := by
  constructor
  · intro h
    cases h
    exact ⟨rfl, rfl⟩
  · rintro ⟨rfl, rfl⟩
    rfl

theorem member_spelled (h : form.Exact) (m : Member) {rest : Text} (hrest : Stops rest)
    (depth : Nat) (draft next : Draft α) (r : Text) :
    form.member depth draft m.name
        (m.gap.text ++ some ':' :: (m.space.text ++ (m.value ++ rest))) = .ok (next, r) ↔
      r = rest ∧ Fills form depth draft [m] next := by
  cases hfield : form.field? m.name with
  | none =>
    have hskip := skipValue_spelled m.spelled m.space hrest
    simp only [member, hfield, Reader.colon_label, hskip, Except.map]
    rw [ok_pair, fills_foreign hfield, fills_nil]
  | some f =>
    have hreads := (h.field hfield).reads_iff m.spelled hrest m.space depth
    simp only [member, hfield, Reader.colon_label, fills_own hfield, fills_nil]
    constructor
    · intro heq
      split at heq
      case isTrue => cases heq
      case isFalse hnew =>
        split at heq
        case h_1 => cases heq
        case h_2 set u hread =>
          cases heq
          obtain ⟨rfl, hgives⟩ := (hreads _ _).1 hread
          exact ⟨rfl, hnew, set, hgives, rfl⟩
    · rintro ⟨rfl, hnew, set, hgives, rfl⟩
      rw [if_neg hnew, (hreads set r).2 ⟨rfl, hgives⟩]

theorem fills_cons {depth : Nat} {draft last : Draft α} {m : Member} {ms : List Member} :
    Fills form depth draft (m :: ms) last ↔
      ∃ next, Fills form depth draft [m] next ∧ Fills form depth next ms last := by
  constructor
  · intro h
    cases h with
    | foreign hf hlast => exact ⟨_, .foreign hf .none, hlast⟩
    | own hf hnew hgives hlast => exact ⟨_, .own hf hnew hgives .none, hlast⟩
  · rintro ⟨next, hfirst, hlast⟩
    cases hfirst with
    | foreign hf hnone => cases hnone; exact .foreign hf hlast
    | own hf hnew hgives hnone => cases hnone; exact .own hf hnew hgives hlast

theorem members_spelled (h : form.Exact) (depth : Nat) (rest : Text) (ms : List Member) :
    ∀ steps afterItem draft (ws : Blanks) a r, ms.length < steps →
      (form.members depth steps afterItem draft
          (ws.text ++ (between afterItem (ms.map Member.entry) ++ some '}' :: rest)) =
        .ok (a, r) ↔
      r = rest ∧ ∃ last, Fills form depth draft ms last ∧ form.finish last = .ok a) := by
  induction ms with
  | nil =>
    intro steps afterItem draft ws a r hsteps
    cases steps with
    | zero => exact absurd hsteps (Nat.not_lt_zero _)
    | succ steps =>
      have hend := Reader.next_end .object afterItem ws rest
      rw [Bracket.closer] at hend
      simp only [List.map_nil, between, List.nil_append, members, hend]
      constructor
      · intro hok
        obtain ⟨b, hfinish, hsame⟩ := map_ok hok
        cases hsame
        exact ⟨rfl, draft, .none, hfinish⟩
      · rintro ⟨rfl, last, hfills, hfinish⟩
        cases hfills
        rw [hfinish]
        rfl
  | cons m ms ih =>
    intro steps afterItem draft ws a r hsteps
    cases steps with
    | zero => exact absurd hsteps (Nat.not_lt_zero _)
    | succ steps =>
      have hstops := stops_between m.trail (ms.map Member.entry) rest
      have hlater := fun next =>
        ih steps true next m.trail a r (by simpa using hsteps)
      rw [Bracket.closer] at hstops
      generalize htail : m.trail.text ++ (between true (ms.map Member.entry) ++ some '}' :: rest) =
        tail at hstops hlater
      have htext : between afterItem ((m :: ms).map Member.entry) ++ some '}' :: rest =
          (if afterItem then [some ','] else []) ++ (m.lead.text ++ some '"' ::
            (m.key ++ some '"' :: (m.gap.text ++ some ':' ::
              (m.space.text ++ (m.value ++ tail))))) := by
        simp [between, Member.entry, ← htail]
      have hkey : ∀ t, Record.key (some '"' :: (m.key ++ some '"' :: t)) = .ok (m.name, t) :=
        m.key_ok.2
      have hmember := member_spelled h m hstops depth draft
      rw [htext, members, Reader.next_start .object afterItem (by decide) ws m.lead]
      simp only [hkey]
      constructor
      · intro hok
        split at hok
        case h_1 => cases hok
        case h_2 next u hfirst =>
          obtain ⟨rfl, hnext⟩ := (hmember _ _).1 hfirst
          obtain ⟨hr, last, hlast, hfinish⟩ := (hlater next).1 hok
          exact ⟨hr, last, fills_cons.2 ⟨next, hnext, hlast⟩, hfinish⟩
      · rintro ⟨hr, last, hfills, hfinish⟩
        obtain ⟨next, hnext, hlast⟩ := fills_cons.1 hfills
        rw [(hmember next tail).2 ⟨rfl, hnext⟩]
        exact (hlater next).2 ⟨hr, last, hlast, hfinish⟩

/-- The members behind the opening bracket, in as many steps as the text has characters. -/
theorem members_object (h : form.Exact) (depth : Nat) (pad : Blanks) (ms : List Member)
    (rest : Text) (a : α) (r : Text) :
    form.members depth ((pad.text ++ (between false (ms.map Member.entry) ++
          some '}' :: rest)).length + 1) false ⟨form.blank, []⟩
        (pad.text ++ (between false (ms.map Member.entry) ++ some '}' :: rest)) = .ok (a, r) ↔
      r = rest ∧ ∃ last, Fills form depth ⟨form.blank, []⟩ ms last ∧ form.finish last = .ok a := by
  refine members_spelled h depth rest ms _ false _ pad a r ?_
  have hlength := length_le_between false (spelled_members ms)
  simp only [List.length_map, List.length_append] at hlength ⊢
  omega

/-- An object is read as what its members make of the defaults. -/
theorem reader_object (h : form.Exact) (depth : Nat) (ws pad : Blanks) (ms : List Member)
    (rest : Text) (a : α) (r : Text) :
    form.reader depth (ws.text ++ (object pad ms ++ rest)) = .ok (a, r) ↔
      r = rest ∧ ∃ d, depth = d + 2 ∧ ∃ last,
        Fills form (d + 1) ⟨form.blank, []⟩ ms last ∧ form.finish last = .ok a := by
  have hblank : isBlank '{' = false := by decide
  rw [object, compound_append, reader]
  show Reader.atValue _ depth (ws.text ++ some '{' :: _) = _ ↔ _
  rw [Reader.atValue_front hblank, if_neg (by decide), if_pos rfl]
  have hinside := fun d => members_object h d pad ms rest a r
  constructor
  · intro hread
    obtain ⟨d, rfl, hread⟩ := Reader.enter_inv hread
    obtain ⟨hr, last, hfills, hfinish⟩ := (hinside (d + 1)).1 hread
    exact ⟨hr, d, rfl, last, hfills, hfinish⟩
  · rintro ⟨hr, d, rfl, last, hfills, hfinish⟩
    exact (hinside (d + 1)).2 ⟨hr, last, hfills, hfinish⟩

theorem member_ok (h : form.Exact) {depth : Nat} {draft next : Draft α} {name : String}
    {s r : Text} (hread : form.member depth draft name s = .ok (next, r)) :
    ∃ (gap space : Blanks) (v : Text),
      s = gap.text ++ some ':' :: (space.text ++ (v ++ r)) ∧ Spelled v := by
  suffices hvalue : ∃ u, Reader.colon s = .ok u ∧ skipValue u = .ok r by
    obtain ⟨u, hcolon, hskip⟩ := hvalue
    obtain ⟨gap, rfl⟩ := Reader.colon_ok hcolon
    obtain ⟨space, v, rfl, hv⟩ := skipValue_ok hskip
    exact ⟨gap, space, v, rfl, hv⟩
  unfold member at hread
  split at hread
  case h_1 =>
    split at hread
    case h_1 => cases hread
    case h_2 u hcolon =>
      obtain ⟨t, hskip, hsame⟩ := map_ok hread
      cases hsame
      exact ⟨u, hcolon, hskip⟩
  case h_2 f hfield =>
    split at hread
    · cases hread
    split at hread
    case h_1 => cases hread
    case h_2 u hcolon =>
      split at hread
      case h_1 => cases hread
      case h_2 set t hset =>
        cases hread
        exact ⟨u, hcolon, (h.field hfield).skips _ _ _ _ hset⟩

/-- Members that are read have been spelled. -/
theorem members_ok (h : form.Exact) (depth steps : Nat) :
    ∀ afterItem draft s a r, form.members depth steps afterItem draft s = .ok (a, r) →
      ∃ (ws : Blanks) (ms : List Member),
        s = ws.text ++ (between afterItem (ms.map Member.entry) ++ some '}' :: r) := by
  induction steps with
  | zero =>
    intro afterItem draft s a r hread
    cases hread
  | succ steps ih =>
    intro afterItem draft s a r hread
    rw [members] at hread
    split at hread
    case h_1 => cases hread
    case h_2 hnext =>
      obtain ⟨b, -, hsame⟩ := map_ok hread
      cases hsame
      obtain ⟨ws, rfl⟩ := Reader.next_ok_close hnext
      exact ⟨ws, [], rfl⟩
    case h_3 t hnext =>
      obtain ⟨ws, lead, rfl⟩ := Reader.next_ok_item hnext
      split at hread
      case h_1 => cases hread
      case h_2 name u hkey =>
        obtain ⟨key, rfl, hspells⟩ := key_ok hkey
        split at hread
        case h_1 => cases hread
        case h_2 next w hmember =>
          obtain ⟨gap, space, v, rfl, hv⟩ := member_ok h hmember
          obtain ⟨trail, ms, rfl⟩ := ih _ _ _ _ _ hread
          refine ⟨ws, ⟨lead, key, gap, space, v, trail, name, hspells, hv⟩ :: ms, ?_⟩
          simp [between, Member.entry]

/-! ## Lists -/

/-- What the items make of a value, one field after the other. -/
inductive Places (depth : Nat) : List (Field α) → α → List Item → α → Prop
  | short {fs : List (Field α)} {a : α} :
      (∀ f ∈ fs, f.required = false) → Places depth fs a [] a
  | item {f : Field α} {fs : List (Field α)} {a b : α} {i : Item} {is : List Item}
      {set : α → α} :
      f.read.Gives depth i.value set → Places depth fs (set a) is b →
      Places depth (f :: fs) a (i :: is) b

theorem listEnd_blanks (ws : Blanks) (rest : Text) :
    listEnd (ws.text ++ some ']' :: rest) = .ok rest := by
  rw [listEnd, skipBlank_front ws (by decide)]
  rfl

theorem listEnd_ok {s r : Text} (h : listEnd s = .ok r) :
    ∃ ws : Blanks, s = ws.text ++ some ']' :: r := by
  unfold listEnd at h
  split at h
  case h_1 => cases h
  case h_2 x t ht =>
    split at h
    case isTrue hx =>
      cases h
      subst hx
      exact skipBlank_eq ht
    case isFalse =>
      split at h
      · split at h <;> cases h
      · cases h

theorem places_cons {depth : Nat} {f : Field α} {fs : List (Field α)} {a b : α} {i : Item}
    {is : List Item} : Places depth (f :: fs) a (i :: is) b ↔
      ∃ set, f.read.Gives depth i.value set ∧ Places depth fs (set a) is b := by
  constructor
  · rintro (_ | ⟨hgives, hrest⟩)
    exact ⟨_, hgives, hrest⟩
  · rintro ⟨set, hgives, hrest⟩
    exact .item hgives hrest

theorem places_nil {depth : Nat} {fs : List (Field α)} {a b : α} :
    Places depth fs a [] b ↔ (∀ f ∈ fs, f.required = false) ∧ b = a := by
  constructor
  · rintro (hoptional | _)
    exact ⟨hoptional, rfl⟩
  · rintro ⟨hoptional, rfl⟩
    exact .short hoptional

/-- Where an item stands, a list does not end. -/
theorem listEnd_item (afterItem : Bool) (i : Item) (ws : Blanks) (s r : Text) :
    listEnd (ws.text ++ ((if afterItem then [some ','] else []) ++
      (i.lead.text ++ (i.value ++ s)))) ≠ .ok r := by
  obtain ⟨c, t, hv, hc⟩ := i.spelled.eq_cons
  intro h
  obtain ⟨ws', hs⟩ := listEnd_ok h
  have hskip := congrArg skipBlank hs
  have hclose := skipBlank_front ws' (show isBlank ']' = false by decide) r
  rw [hclose, skipBlank_blanks] at hskip
  cases afterItem with
  | false =>
    have hfirst := skipBlank_front i.lead (not_blank_of_beginsValue hc) (t ++ s)
    rw [hv, if_neg Bool.false_ne_true, List.nil_append, List.cons_append, hfirst] at hskip
    cases hskip
    cases hc
  | true =>
    have hcomma : skipBlank (some ',' :: (i.lead.text ++ (i.value ++ s))) =
        some ',' :: (i.lead.text ++ (i.value ++ s)) := rfl
    rw [if_pos rfl, List.cons_append, List.nil_append, hcomma] at hskip
    cases hskip

/-- A list that ends leaves the fields that are left to their defaults. -/
theorem inOrder_end (depth : Nat) (fs : List (Field α)) (index : Nat) (a : α) (ws : Blanks)
    (rest : Text) (b : α) (r : Text) :
    form.inOrder depth fs index a (ws.text ++ some ']' :: rest) = .ok (b, r) ↔
      r = rest ∧ Places depth fs a [] b := by
  rw [places_nil]
  cases fs with
  | nil =>
    rw [inOrder, listEnd_blanks, Except.map, ok_pair]
    simp
  | cons f fs =>
    have hend := Reader.next_end .list (decide (0 < index)) ws rest
    rw [Bracket.closer] at hend
    rw [inOrder, hend]
    simp only [listEnd_blanks]
    split
    case h_1 i hrequired =>
      have hsome : ¬ ∀ g ∈ f :: fs, g.required = false := by
        intro hnone
        rw [List.findIdx?_eq_none_iff.2 hnone] at hrequired
        cases hrequired
      constructor
      · intro h
        cases h
      · exact fun h => (hsome h.2.1).elim
    case h_2 hrequired =>
      rw [List.findIdx?_eq_none_iff] at hrequired
      rw [Except.map, ok_pair]
      exact and_congr_right fun _ => (and_iff_right hrequired).symm

theorem inOrder_spelled (depth : Nat) (rest : Text) (fs : List (Field α))
    (hfs : ∀ f ∈ fs, f.read.Exact) :
    ∀ index (is : List Item) a (ws : Blanks) b r,
      (form.inOrder depth fs index a
          (ws.text ++ (between (0 < index) (is.map Item.entry) ++ some ']' :: rest)) =
        .ok (b, r) ↔
      r = rest ∧ Places depth fs a is b) := by
  induction fs with
  | nil =>
    intro index is a ws b r
    cases is with
    | nil => exact inOrder_end depth [] index a ws rest b r
    | cons i is =>
      rw [List.map_cons, between_cons_append, inOrder]
      constructor
      · intro hok
        obtain ⟨t, hend, -⟩ := map_ok hok
        exact (listEnd_item _ i ws _ _ hend).elim
      · rintro ⟨-, hplaces⟩
        cases hplaces
  | cons f fs ih =>
    intro index is a ws b r
    cases is with
    | nil => exact inOrder_end depth (f :: fs) index a ws rest b r
    | cons i is =>
      have hstops := stops_between i.trail (is.map Item.entry) rest
      have hafter : decide (0 < index + 1) = true := by simp
      have hlater := fun set : α → α =>
        ih (fun g hg => hfs g (by simp [hg])) (index + 1) is (set a) i.trail b r
      rw [Bracket.closer] at hstops
      rw [hafter] at hlater
      generalize htail : i.trail.text ++ (between true (is.map Item.entry) ++ some ']' :: rest) =
        tail at hstops hlater
      have hread := fun set u =>
        (hfs f (by simp)).reads_iff i.spelled hstops .none depth set u
      obtain ⟨c, t, hv, hc⟩ := i.spelled.eq_cons
      have hstart := Reader.next_start .list (decide (0 < index)) hc ws i.lead (t ++ tail)
      rw [← List.cons_append, ← hv] at hstart
      have htext : between (decide (0 < index)) ((i :: is).map Item.entry) ++ some ']' :: rest =
          (if decide (0 < index) then [some ','] else []) ++
            (i.lead.text ++ (i.value ++ tail)) := by
        rw [List.map_cons, between_cons_append, ← htail]
        rfl
      rw [htext, inOrder, hstart, places_cons]
      simp only [Blanks.text_none, List.nil_append] at hread ⊢
      constructor
      · intro hok
        split at hok
        case h_1 => cases hok
        case h_2 set u hset =>
          obtain ⟨rfl, hgives⟩ := (hread _ _).1 hset
          obtain ⟨hr, hplaces⟩ := (hlater set).1 hok
          exact ⟨hr, set, hgives, hplaces⟩
      · rintro ⟨hr, set, hgives, hplaces⟩
        rw [(hread set tail).2 ⟨rfl, hgives⟩]
        exact (hlater set).2 ⟨hr, hplaces⟩

theorem inOrder_ok (depth : Nat) (fs : List (Field α)) (hfs : ∀ f ∈ fs, f.read.Exact) :
    ∀ index a s b r, form.inOrder depth fs index a s = .ok (b, r) →
      ∃ (ws : Blanks) (is : List Item),
        s = ws.text ++ (between (0 < index) (is.map Item.entry) ++ some ']' :: r) := by
  have hend : ∀ index s t a b r, (listEnd s).map ((a : α), ·) = Except.ok (b, r) → t = s →
      ∃ (ws : Blanks) (is : List Item),
        t = ws.text ++ (between (0 < index) (is.map Item.entry) ++ some ']' :: r) := by
    rintro index s t a b r hmap rfl
    obtain ⟨u, hu, hsame⟩ := map_ok hmap
    cases hsame
    obtain ⟨ws, hs⟩ := listEnd_ok hu
    exact ⟨ws, [], hs⟩
  induction fs with
  | nil =>
    intro index a s b r hread
    exact hend index s s a b r hread rfl
  | cons f fs ih =>
    intro index a s b r hread
    rw [inOrder] at hread
    split at hread
    case h_1 => cases hread
    case h_2 hnext =>
      split at hread
      case h_1 => cases hread
      case h_2 => exact hend index s s a b r hread rfl
    case h_3 t hnext =>
      obtain ⟨ws, lead, rfl⟩ := Reader.next_ok_item hnext
      split at hread
      case h_1 => cases hread
      case h_2 set u hset =>
        obtain ⟨front, v, rfl, hv⟩ := (hfs f (by simp)).spelled hset
        obtain ⟨trail, is, rfl⟩ := ih (fun g hg => hfs g (by simp [hg])) _ _ _ _ _ hread
        refine ⟨ws, ⟨lead.append front, v, trail, hv⟩ :: is, ?_⟩
        rw [List.map_cons, between_cons_append, decide_eq_true (Nat.succ_pos index)]
        simp [Item.entry, Blanks.text_append]

/-- A list is read as what its items make of the defaults. -/
theorem reader_array (h : form.Exact) (depth : Nat) (ws pad : Blanks) (is : List Item)
    (rest : Text) (a : α) (r : Text) :
    form.reader depth (ws.text ++ (array pad is ++ rest)) = .ok (a, r) ↔
      r = rest ∧ ∃ d, depth = d + 2 ∧ Places (d + 1) form.fields form.blank is a := by
  have hblank : isBlank '[' = false := by decide
  rw [array, compound_append, reader]
  show Reader.atValue _ depth (ws.text ++ some '[' :: _) = _ ↔ _
  rw [Reader.atValue_front hblank, if_pos rfl]
  have hinside := fun d => @inOrder_spelled α form d rest form.fields h 0 is form.blank pad a r
  constructor
  · intro hread
    obtain ⟨d, rfl, hread⟩ := Reader.enter_inv hread
    obtain ⟨hr, hplaces⟩ := (hinside (d + 1)).1 hread
    exact ⟨hr, d, rfl, hplaces⟩
  · rintro ⟨hr, d, rfl, hplaces⟩
    exact (hinside (d + 1)).2 ⟨hr, hplaces⟩

/-! ## Every spelling -/

/-- What is read as a record is an object or a list, with blanks in front of it. -/
theorem reader_ok (h : form.Exact) {depth : Nat} {s r : Text} {a : α}
    (hread : form.reader depth s = .ok (a, r)) :
    (∃ (ws pad : Blanks) (ms : List Member), s = ws.text ++ (object pad ms ++ r)) ∨
      ∃ (ws pad : Blanks) (is : List Item), s = ws.text ++ (array pad is ++ r) := by
  obtain ⟨ws, c, t, rfl, -, hbody⟩ := Reader.atValue_inv hread
  split at hbody
  case isTrue hbracket =>
    subst hbracket
    obtain ⟨d, -, hbody⟩ := Reader.enter_inv hbody
    obtain ⟨pad, is, rfl⟩ := inOrder_ok _ _ h _ _ _ _ _ hbody
    exact .inr ⟨ws, pad, is, by rw [array, compound_append]; rfl⟩
  case isFalse =>
    split at hbody
    case isFalse => cases hbody
    case isTrue hbrace =>
      subst hbrace
      obtain ⟨d, -, hbody⟩ := Reader.enter_inv hbody
      obtain ⟨pad, ms, rfl⟩ := members_ok h _ _ _ _ _ _ _ hbody
      exact .inl ⟨ws, pad, ms, by rw [object, compound_append]; rfl⟩

/-- A record is read exactly if its fields are. -/
theorem reader_exact (h : form.Exact) : form.reader.Exact := by
  refine .of_value (fun depth ws s => ?_) fun depth s a r hread => ?_
  · simp only [reader, Reader.atValue, skipBlank_blanks]
  obtain ⟨ws, pad, ms, rfl⟩ | ⟨ws, pad, is, rfl⟩ := reader_ok h hread
  · obtain ⟨-, hfills⟩ := (reader_object h depth ws pad ms r a r).1 hread
    refine ⟨skipValue_compound (spelled_members ms) pad ws r, ws.text ++ object pad ms,
      by rw [List.append_assoc], fun rest _ => ?_⟩
    rw [List.append_assoc]
    exact (reader_object h depth ws pad ms rest a rest).2 ⟨rfl, hfills⟩
  · obtain ⟨-, hplaces⟩ := (reader_array h depth ws pad is r a r).1 hread
    refine ⟨skipValue_compound (spelled_items is) pad ws r, ws.text ++ array pad is,
      by rw [List.append_assoc], fun rest _ => ?_⟩
    rw [List.append_assoc]
    exact (reader_array h depth ws pad is rest a rest).2 ⟨rfl, hplaces⟩

end Record
end Rollout.Json
