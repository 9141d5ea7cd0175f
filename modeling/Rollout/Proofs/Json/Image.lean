import Mathlib.Data.List.Forall2
import Rollout.Json.Record
import Rollout.Proofs.Json.Reader

/-!
One record as the image of another. Where the fields of two records read the same values, and what
they set corresponds under a function, reading the one record is reading the other and applying the
function (`Record.Follows.reader_eq`): the faults are the same too.
-/

namespace Rollout.Json

variable {α β : Type} {φ : α → β}

/-- Fields that read the same values, the second setting what `φ` makes of what the first sets. -/
inductive Field.Follows (φ : α → β) : Field α → Field β → Prop
  | intro {γ : Type} {key : String} {required : Bool} {read : Reader γ} {set : γ → α → α}
      {setImage : γ → β → β} (h : ∀ x a, φ (set x a) = setImage x (φ a)) :
      Follows φ ⟨key, required, read.map set⟩ ⟨key, required, read.map setImage⟩

structure Record.Follows (φ : α → β) (form : Record α) (image : Record β) : Prop where
  name : form.name = image.name
  blank : φ form.blank = image.blank
  fields : List.Forall₂ (Field.Follows φ) form.fields image.fields

namespace Field

theorem Follows.key_eq {f : Field α} {g : Field β} (h : Follows φ f g) : f.key = g.key := by
  cases h
  rfl

theorem Follows.required_eq {f : Field α} {g : Field β} (h : Follows φ f g) :
    f.required = g.required := by
  cases h
  rfl

/-- The fields found by what they have in common correspond, or there is none on either side. -/
theorem find?_follows {p : Field α → Bool} {q : Field β → Bool}
    (hpq : ∀ f g, Follows φ f g → p f = q g) {fs : List (Field α)} {gs : List (Field β)}
    (h : List.Forall₂ (Follows φ) fs gs) : Option.Rel (Follows φ) (fs.find? p) (gs.find? q) := by
  induction h with
  | nil => exact .none
  | @cons f g fs gs hfg _ ih =>
    rw [List.find?_cons, List.find?_cons, hpq f g hfg]
    cases q g with
    | true => exact .some hfg
    | false => exact ih

theorem findIdx?_follows {fs : List (Field α)} {gs : List (Field β)}
    (h : List.Forall₂ (Follows φ) fs gs) :
    fs.findIdx? Field.required = gs.findIdx? Field.required := by
  induction h with
  | nil => rfl
  | @cons f g fs gs hfg _ ih => rw [List.findIdx?_cons, List.findIdx?_cons, hfg.required_eq, ih]

end Field

namespace Record

variable {form : Record α} {shape : Record β}

/-- A draft of the one record as one of the other. -/
def Draft.image (φ : α → β) (draft : Draft α) : Draft β := ⟨φ draft.value, draft.seen⟩

theorem member_image (h : form.Follows φ shape) (depth : Nat) (draft : Draft α) (key : String)
    (s : Text) : shape.member depth (draft.image φ) key s =
      (form.member depth draft key s).map fun p => (p.1.image φ, p.2) := by
  have hfield : Option.Rel (Field.Follows φ) (form.field? key) (shape.field? key) :=
    Field.find?_follows (fun f g hfg => by rw [hfg.key_eq]) h.fields
  unfold member
  generalize form.field? key = f at hfield
  generalize shape.field? key = g at hfield
  cases hfield with
  | none =>
    simp only
    cases Reader.colon s with
    | error e => rfl
    | ok r => cases hskip : skipValue r <;> simp [hskip, Except.map]
  | some hfg =>
    obtain ⟨hset⟩ := hfg
    rename_i read set setImage
    have hsame : (draft.image φ).seen = draft.seen := rfl
    by_cases hseen : key ∈ draft.seen
    · simp only [hsame, if_pos hseen]
      rfl
    · simp only [hsame, if_neg hseen]
      cases Reader.colon s with
      | error e => rfl
      | ok r =>
        simp only [Reader.map]
        cases read depth r with
        | error e => rfl
        | ok found => simp [Except.map, Draft.image, hset]

theorem finish_image (h : form.Follows φ shape) (draft : Draft α) :
    shape.finish (draft.image φ) = (form.finish draft).map φ := by
  have hmissing := Field.find?_follows (p := fun f => f.required && f.key ∉ draft.seen)
    (q := fun g => g.required && g.key ∉ draft.seen)
    (fun f g hfg => by rw [hfg.key_eq, hfg.required_eq]) h.fields
  have hseen : (draft.image φ).seen = draft.seen := rfl
  rw [finish, finish, hseen]
  generalize form.fields.find? (fun f => f.required && f.key ∉ draft.seen) = f at hmissing
  generalize shape.fields.find? (fun g => g.required && g.key ∉ draft.seen) = g at hmissing
  cases hmissing with
  | none => rfl
  | some hfg => exact congrArg (fun key => Except.error (Fault.missingField key)) hfg.key_eq.symm

theorem members_image (h : form.Follows φ shape) (depth steps : Nat) (afterItem : Bool)
    (draft : Draft α) (s : Text) : shape.members depth steps afterItem (draft.image φ) s =
      (form.members depth steps afterItem draft s).map fun p => (φ p.1, p.2) := by
  induction steps generalizing afterItem draft s with
  | zero => rfl
  | succ steps ih =>
    rw [members, members]
    cases Reader.next .object afterItem s with
    | error e => rfl
    | ok next =>
      cases next with
      | close r =>
        simp only [finish_image h]
        cases form.finish draft <;> rfl
      | item r =>
        simp only
        cases Record.key r with
        | error e => rfl
        | ok found =>
          simp only [member_image h]
          cases form.member depth draft found.1 found.2 with
          | error e => rfl
          | ok read => exact ih true read.1 read.2

theorem inOrder_image (h : form.Follows φ shape) (depth : Nat) {fs : List (Field α)}
    {gs : List (Field β)} (hfields : List.Forall₂ (Field.Follows φ) fs gs) (index : Nat) (a : α)
    (s : Text) : shape.inOrder depth gs index (φ a) s =
      (form.inOrder depth fs index a s).map fun p => (φ p.1, p.2) := by
  induction hfields generalizing index a s with
  | nil =>
    rw [inOrder, inOrder]
    cases listEnd s <;> rfl
  | @cons f g fs gs hfg hrest ih =>
    rw [inOrder, inOrder]
    cases Reader.next .list (0 < index) s with
    | error e => rfl
    | ok next =>
      cases next with
      | close r =>
        simp only [← Field.findIdx?_follows (.cons hfg hrest), ← h.name, ← h.fields.length_eq]
        cases (f :: fs).findIdx? Field.required with
        | some i => rfl
        | none => cases listEnd s <;> rfl
      | item r =>
        obtain ⟨hset⟩ := hfg
        rename_i read set setImage
        simp only [Reader.map]
        cases read depth r with
        | error e => rfl
        | ok found =>
          simp only [← hset]
          exact ih (index + 1) (set found.1 a) found.2

theorem enter_image {read : Nat → Except Fault (α × Text)}
    {readImage : Nat → Except Fault (β × Text)}
    (h : ∀ depth, readImage depth = (read depth).map fun p => (φ p.1, p.2)) (depth : Nat) :
    Reader.enter depth readImage =
      match Reader.enter depth read with
      | .ok (a, r) => .ok (φ a, r)
      | .error e => .error e := by
  unfold Reader.enter
  split
  · rw [h]
    rename_i d
    cases read (d + 1) <;> rfl
  · rfl

/-- Reading the image of a record is reading the record and taking the image of what was read. -/
theorem Follows.reader_eq (h : form.Follows φ shape) : shape.reader = form.reader.map φ := by
  funext depth s
  unfold Reader.map reader Reader.atValue
  cases skipBlank s with
  | nil => rfl
  | cons c r =>
    cases c with
    | none => rfl
    | some c =>
      simp only [← h.name, ← h.blank]
      split
      · exact enter_image (fun depth => inOrder_image h depth h.fields 0 form.blank r) depth
      · split
        · exact enter_image
            (fun depth => members_image h depth (r.length + 1) false ⟨form.blank, []⟩ r) depth
        · rfl

end Record

end Rollout.Json
