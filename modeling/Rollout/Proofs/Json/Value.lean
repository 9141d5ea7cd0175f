import Mathlib.Data.List.Forall2
import Rollout.Proofs.Json.Record

/-!
Values of any kind. A reader that takes every JSON value and keeps all of it, in one pass like the
typed ones: with it one can say what a text holds without saying what it is read for. What the
printers write is taken as the value that was meant (`Value.Takes`).
-/

namespace Rollout.Json

/-- A JSON value. The members of an object stand in the order of the text. -/
inductive Value where
  | null
  | flag (b : Bool)
  | number (n : Number)
  | text (s : String)
  | list (items : List Value)
  | object (members : List (String × Value))

namespace Value

/-- Members up to the closing bracket, in at most `steps` steps. -/
def members (read : Reader Value) (depth : Nat) :
    (steps : Nat) → (afterItem : Bool) → Text → Except Fault (List (String × Value) × Text)
  | 0, _, _ => .error .endOfObject
  | steps + 1, afterItem, s =>
    match Reader.next .object afterItem s with
    | .error e => .error e
    | .ok (.close r) => .ok ([], r)
    | .ok (.item r) =>
      match Record.key r with
      | .error e => .error e
      | .ok (key, r) =>
        match Reader.colon r with
        | .error e => .error e
        | .ok r =>
          match read depth r with
          | .error e => .error e
          | .ok (v, r) =>
            match members read depth steps true r with
            | .error e => .error e
            | .ok (ms, r) => .ok ((key, v) :: ms, r)

/-- Inside brackets one level less is allowed. -/
def reader : Reader Value
  | 0, _ => .error .tooDeep
  | depth + 1, s =>
    Reader.atValue (fun c r s =>
      match c with
      | 'n' => (literal ['u', 'l', 'l'] r).map (.null, ·)
      | 't' => (literal ['r', 'u', 'e'] r).map (.flag true, ·)
      | 'f' => (literal ['a', 'l', 's', 'e'] r).map (.flag false, ·)
      | '"' => (readString r).map fun (t, r) => (.text t, r)
      | '[' =>
        Reader.enter (depth + 1) fun d =>
          (Reader.items (fun _ => reader depth) d (r.length + 1) false r).map fun (vs, r) =>
            (.list vs, r)
      | '{' =>
        Reader.enter (depth + 1) fun d =>
          (members (fun _ => reader depth) d (r.length + 1) false r).map fun (ms, r) =>
            (.object ms, r)
      | c =>
        if startsNumber (some c) then (scanNumber s).map fun (n, r) => (.number n, r)
        else .error .expectedValue) (depth + 1) s

/-- Reads a whole text. -/
def read (s : String) : Except Fault Value := reader.run (Text.ofString s)

def text? : Value → Option String
  | .text s => some s
  | _ => none

def flag? : Value → Option Bool
  | .flag b => some b
  | _ => none

def integer? : Value → Option Int
  | .number (.natural n) => some n
  | .number (.negative n) => some n
  | _ => none

def members? : Value → Option (List (String × Value))
  | .object ms => some ms
  | _ => none

def integer (n : Int) : Value :=
  .number (if n < 0 then .negative n else .natural n.toNat)

theorem integer?_integer (n : Int) : (integer n).integer? = some n := by
  unfold integer
  split
  · rfl
  · simp [integer?]
    omega

/-- The text is read as the value wherever a value ends, if so many brackets may be opened. -/
def Takes (levels : Nat) (text : List Char) (v : Value) : Prop :=
  ∀ depth rest, levels < depth → Ends rest → reader depth (text.map some ++ rest) = .ok (v, rest)

variable {levels : Nat} {text : List Char} {v : Value}

theorem Takes.deeper (h : Takes levels text v) {more : Nat} (hle : levels ≤ more) :
    Takes more text v :=
  fun depth rest hdepth => h depth rest (Nat.lt_of_le_of_lt hle hdepth)

theorem takes_text (s : String) : Takes 0 (Print.text s) (.text s) := by
  intro depth rest hdepth _
  obtain ⟨d, rfl⟩ : ∃ d, depth = d + 1 := ⟨depth - 1, by omega⟩
  have hstring := readString_escaped s rest
  simp only [Print.text, List.cons_append, List.map_cons, List.map_append, List.append_assoc,
    List.map_nil, List.nil_append, reader]
  rw [Reader.atValue_opensValue (by decide), hstring]
  rfl

theorem takes_flag (b : Bool) : Takes 0 (Print.flag b) (.flag b) := by
  intro depth rest hdepth _
  obtain ⟨d, rfl⟩ : ∃ d, depth = d + 1 := ⟨depth - 1, by omega⟩
  cases b <;> rfl

theorem takes_integer {n : Int} (hlow : -(Nat.pow 2 63 : Nat) ≤ n)
    (hhigh : n < (Nat.pow 2 63 : Nat)) : Takes 0 (Print.integer n) (integer n) := by
  intro depth rest hdepth hrest
  obtain ⟨d, rfl⟩ : ∃ d, depth = d + 1 := ⟨depth - 1, by omega⟩
  obtain ⟨c, cs, hcs, hstarts⟩ := integer_eq_cons n
  have hscan := scanNumber_integer hlow hhigh hrest
  have hopens := opensValue_of_startsNumber hstarts
  rw [hcs, List.map_cons, List.cons_append] at hscan ⊢
  rw [reader, Reader.atValue_opensValue hopens, hscan]
  split
  case h_7 =>
    simp only [hstarts, if_true]
    rfl
  -- No other value starts like a number.
  all_goals cases hstarts

/-! ### Lists -/

theorem takes_list {print : α → List Char} {value : α → Value} {xs : List α}
    (hopens : ∀ x ∈ xs, ∃ c cs, print x = c :: cs ∧ opensValue c = true)
    (h : ∀ x ∈ xs, Takes levels (print x) (value x)) :
    Takes (levels + 1) (Print.list print xs) (.list (xs.map value)) := by
  intro depth rest hdepth _
  obtain ⟨d, rfl⟩ : ∃ d, depth = d + 2 := ⟨depth - 2, by omega⟩
  -- Between the brackets the reader is the same at every depth.
  have hitem : ∀ x ∈ xs, Reader.Reads (fun _ => reader (d + 1)) 0 (print x) (value x) :=
    fun x hx => ⟨hopens x hx, fun _ rest _ hrest => h x hx (d + 1) rest (by omega) hrest⟩
  have hprinted : List.Forall₂ (Reader.Reads (fun _ => reader (d + 1)) 0) (xs.map print)
      (xs.map value) := by
    rw [List.forall₂_map_left_iff, List.forall₂_map_right_iff]
    exact List.forall₂_same.2 hitem
  have hitems := Reader.items_reads (Nat.succ_pos d) rest hprinted _ false
    (length_lt_between (xs.map print) .list rest)
  rw [Print.map_list, reader, Reader.atValue_opensValue (by decide)]
  exact congrArg (Except.map fun (vs, r) => (list vs, r)) hitems

/-! ### Objects -/

/-- The texts of members, each with the key and the value it is read as. -/
def Shows (levels : Nat) : List (List Char) → List (String × Value) → Prop :=
  List.Forall₂ fun shown m => ∃ text, shown = Print.member m.1 text ∧ Takes levels text m.2

/-- The first of some members is taken and the others are left. -/
theorem members_printed {key : String} (hv : Takes levels text v) {depth : Nat}
    (hdepth : levels < depth) (steps : Nat) (afterItem : Bool) (texts : List (List Char))
    (rest : Text) :
    members (fun _ => reader depth) depth (steps + 1) afterItem
        ((Print.between afterItem (Print.member key text :: texts)).map some ++ some '}' :: rest) =
      (members (fun _ => reader depth) depth steps true
        ((Print.between true texts).map some ++ some '}' :: rest)).map
          fun (ms, r) => ((key, v) :: ms, r) := by
  have hcolon : ∀ s : Text, Reader.colon (some ':' :: s) = .ok s := fun _ => rfl
  have hread := hv depth _ hdepth (ends_between texts .object rest)
  rw [Bracket.closer] at hread
  rw [members, Record.next_member]
  simp only [Record.key_printed, hcolon, hread]
  cases members (fun _ => reader depth) depth steps true
      ((Print.between true texts).map some ++ some '}' :: rest) with
  | error e => rfl
  | ok found => rfl

theorem members_reads {depth : Nat} (hdepth : levels < depth) (rest : Text)
    {texts : List (List Char)} {ms : List (String × Value)} (h : Shows levels texts ms) :
    ∀ steps afterItem, texts.length < steps →
      members (fun _ => reader depth) depth steps afterItem
        ((Print.between afterItem texts).map some ++ some '}' :: rest) = .ok (ms, rest) := by
  induction h with
  | nil =>
    intro steps afterItem hsteps
    cases steps with
    | zero => exact absurd hsteps (Nat.not_lt_zero _)
    | succ steps =>
      have hclose := Reader.next_close .object afterItem rest
      rw [Bracket.closer] at hclose
      simp only [Print.between_nil, List.map_nil, List.nil_append, members, hclose]
  | @cons shown m texts ms hfirst _ ih =>
    intro steps afterItem hsteps
    obtain ⟨text, rfl, hv⟩ := hfirst
    cases steps with
    | zero => exact absurd hsteps (Nat.not_lt_zero _)
    | succ steps =>
      rw [members_printed hv hdepth, ih steps true (by simpa using hsteps)]
      rfl

theorem takes_object {texts : List (List Char)} {ms : List (String × Value)}
    (h : Shows levels texts ms) : Takes (levels + 1) (Print.object texts) (.object ms) := by
  intro depth rest hdepth _
  obtain ⟨d, rfl⟩ : ∃ d, depth = d + 2 := ⟨depth - 2, by omega⟩
  have hmembers := members_reads (show levels < d + 1 by omega) rest h _ false
    (length_lt_between texts .object rest)
  rw [Record.map_object, reader, Reader.atValue_opensValue (by decide)]
  exact congrArg (Except.map fun (ms, r) => (object ms, r)) hmembers

/-! ### Whole texts -/

theorem Takes.run (h : Takes levels text v) (hlevels : levels < 128) :
    read (String.ofList text) = .ok v := by
  have hread := h 128 [] hlevels (by simp [Ends])
  rw [List.append_nil] at hread
  simp only [read, Text.ofString, String.toList_ofList, Reader.run, hread, skipBlank]

end Value
end Rollout.Json
