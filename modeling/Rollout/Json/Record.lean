import Rollout.Json.Reader

/-!
Records. A record is an object whose members may come in any order, or a list of its fields in
declared order. Keys that no field has are passed over. A field without a value keeps its default;
a required field must be given.
-/
namespace Rollout.Json

/-- A field of a record that is read into `α`: it changes the value that is being built. -/
structure Field (α : Type) where
  key : String
  required : Bool
  read : Reader (α → α)

/-- A field with a default. -/
def Field.optional (key : String) (read : Reader β) (set : β → α → α) : Field α :=
  ⟨key, false, read.map set⟩

/-- A field that must be given. -/
def Field.must (key : String) (read : Reader β) (set : β → α → α) : Field α :=
  ⟨key, true, read.map set⟩

/-- A record type: its name in messages, its fields in declared order, and the value that has
every default. -/
structure Record (α : Type) where
  name : String
  fields : List (Field α)
  blank : α

namespace Record

/-- A record being read from an object: the value so far and the keys that were seen. -/
structure Draft (α : Type) where
  value : α
  seen : List String

def field? (form : Record α) (key : String) : Option (Field α) :=
  form.fields.find? fun f => f.key == key

/-- A key and its colon. -/
def key (s : Text) : Except Fault (String × Text) :=
  match s with
  | some '"' :: r => readString r
  | _ => .error .keyNotString

/-- The value of a member, and the colon in front of it. -/
def member (form : Record α) (depth : Nat) (draft : Draft α) (key : String) (s : Text) :
    Except Fault (Draft α × Text) :=
  match form.field? key with
  | none =>
    match Reader.colon s with
    | .error e => .error e
    | .ok r => (skipValue r).map (draft, ·)
  | some f =>
    if key ∈ draft.seen then .error (.duplicateField key)
    else
      match Reader.colon s with
      | .error e => .error e
      | .ok r =>
        match f.read depth r with
        | .error e => .error e
        | .ok (set, r) => .ok (⟨set draft.value, key :: draft.seen⟩, r)

/-- The finished value, unless a required field was not seen. -/
def finish (form : Record α) (draft : Draft α) : Except Fault α :=
  match form.fields.find? fun f => f.required && f.key ∉ draft.seen with
  | some f => .error (.missingField f.key)
  | none => .ok draft.value

/-- Members up to the closing bracket, in at most `steps` steps. -/
def members (form : Record α) (depth : Nat) :
    (steps : Nat) → (afterItem : Bool) → Draft α → Text → Except Fault (α × Text)
  | 0, _, _, _ => .error .endOfObject
  | steps + 1, afterItem, draft, s =>
    match Reader.next .object afterItem s with
    | .error e => .error e
    | .ok (.close r) => (form.finish draft).map (·, r)
    | .ok (.item r) =>
      match key r with
      | .error e => .error e
      | .ok (key, r) =>
        match form.member depth draft key r with
        | .error e => .error e
        | .ok (draft, r) => members form depth steps true draft r

/-- What must stand behind the last field of a list. -/
def listEnd (s : Text) : Except Fault Text :=
  match skipBlank s with
  | [] => .error .endOfList
  | x :: r =>
    if x = some ']' then .ok r
    else if x = some ',' then
      match skipBlank r with
      | some ']' :: _ => .error .trailingComma
      | _ => .error .trailingText
    else .error .trailingText

/-- The fields in order. Where the list ends early the fields that are left keep their defaults;
`index` counts the fields that were read. -/
def inOrder (form : Record α) (depth : Nat) :
    List (Field α) → (index : Nat) → α → Text → Except Fault (α × Text)
  | [], _, a, s => (listEnd s).map (a, ·)
  | f :: fs, index, a, s =>
    match Reader.next .list (0 < index) s with
    | .error e => .error e
    | .ok (.close _) =>
      match (f :: fs).findIdx? Field.required with
      | some i => .error (.wrongLength (index + i) form.name form.fields.length)
      | none => (listEnd s).map (a, ·)
    | .ok (.item r) =>
      match f.read depth r with
      | .error e => .error e
      | .ok (set, r) => inOrder form depth fs (index + 1) (set a) r

def reader (form : Record α) : Reader α := fun depth => Reader.atValue (fun c r _ =>
  if c = '[' then Reader.enter depth fun depth => form.inOrder depth form.fields 0 form.blank r
  else if c = '{' then
    Reader.enter depth fun depth => form.members depth (r.length + 1) false ⟨form.blank, []⟩ r
  else .error (Reader.mismatch ("struct " ++ form.name) c r)) depth

end Record
end Rollout.Json
