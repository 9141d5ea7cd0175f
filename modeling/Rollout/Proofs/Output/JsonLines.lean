import Rollout.Proofs.Output.Device
import Rollout.Proofs.Bytes
import Rollout.Proofs.Json.Value

/-!
Events as lines of JSON. No printed value has a control character in it, so newline bytes stand
only between lines, and a line holds the members of one event, from which it is recovered. The
bytes that were written tell the events (`framing`).
-/

namespace Rollout

/-! ## Events as members -/

/-- The counts fit a signed word. -/
structure Bar.Fits (b : Bar) : Prop where
  current_low : -(Nat.pow 2 63 : Nat) ≤ b.current
  current_high : b.current < (Nat.pow 2 63 : Nat)
  total_low : -(Nat.pow 2 63 : Nat) ≤ b.total
  total_high : b.total < (Nat.pow 2 63 : Nat)

def Event.Fits (e : Event) : Prop := ∀ b ∈ e.bar, b.Fits

namespace Bar

def members (b : Bar) : List (String × Json.Value) :=
  [("current", .integer b.current), ("total", .integer b.total), ("hidecounts", .flag b.hideCounts)]

def ofMembers? (ms : List (String × Json.Value)) : Option Bar := do
  let current ← (← ms.lookup "current").integer?
  let total ← (← ms.lookup "total").integer?
  let hideCounts ← (← ms.lookup "hidecounts").flag?
  return ⟨current, total, hideCounts⟩

theorem ofMembers?_members (b : Bar) : ofMembers? b.members = some b := by
  simp [ofMembers?, members, List.lookup_cons, Json.Value.integer?_integer, Json.Value.flag?]

end Bar

namespace Event

/-- The members of the object that shows an event. Only an event with a bar has a detail. -/
def members (e : Event) : List (String × Json.Value) :=
  ("id", .text e.id) :: ("status", .text e.action) ::
    match e.bar with
    | none => []
    | some b => [("progressDetail", .object b.members)]

def ofMembers? (ms : List (String × Json.Value)) : Option Event := do
  let id ← (← ms.lookup "id").text?
  let action ← (← ms.lookup "status").text?
  match ms.lookup "progressDetail" with
  | none => return ⟨id, action, none⟩
  | some detail => return ⟨id, action, some (← Bar.ofMembers? (← detail.members?))⟩

theorem ofMembers?_members (e : Event) : ofMembers? e.members = some e := by
  obtain ⟨id, action, bar⟩ := e
  cases bar with
  | none => simp [ofMembers?, members, List.lookup_cons, Json.Value.text?]
  | some b =>
    simp [ofMembers?, members, List.lookup_cons, Json.Value.text?, Json.Value.members?,
      Bar.ofMembers?_members]

end Event

/-! ## A line is read as its event -/

open Json Json.Value

theorem Bar.takes_members {b : Bar} (h : b.Fits) :
    Takes 1
      (Print.object
        [Print.member "current" (Print.integer b.current),
          Print.member "total" (Print.integer b.total),
          Print.member "hidecounts" (Print.flag b.hideCounts)])
      (.object b.members) :=
  takes_object
    (.cons ⟨_, rfl, takes_integer h.current_low h.current_high⟩
      (.cons ⟨_, rfl, takes_integer h.total_low h.total_high⟩
        (.cons ⟨_, rfl, takes_flag b.hideCounts⟩ .nil)))

theorem Event.takes_members {e : Event} (h : e.Fits) : Takes 2 e.print (.object e.members) := by
  obtain ⟨id, action, bar⟩ := e
  have hid : Takes 1 (Print.text id) (.text id) := (takes_text id).deeper (Nat.zero_le 1)
  have haction : Takes 1 (Print.text action) (.text action) :=
    (takes_text action).deeper (Nat.zero_le 1)
  cases bar with
  | none => exact takes_object (.cons ⟨_, rfl, hid⟩ (.cons ⟨_, rfl, haction⟩ .nil))
  | some b =>
    have hbar := Bar.takes_members (h b rfl)
    exact takes_object
      (.cons ⟨_, rfl, hid⟩ (.cons ⟨_, rfl, haction⟩ (.cons ⟨_, rfl, hbar⟩ .nil)))

theorem Event.read_json {e : Event} (h : e.Fits) : Value.read e.json = .ok (.object e.members) :=
  (Event.takes_members h).run (by decide)

theorem Event.json_injective {e e' : Event} (h : e.Fits) (h' : e'.Fits) (heq : e.json = e'.json) :
    e = e' := by
  have hread := Event.read_json h
  rw [heq, Event.read_json h'] at hread
  have hmembers : e'.members = e.members := Value.object.inj (Except.ok.inj hread)
  have hsome := Event.ofMembers?_members e
  rw [← hmembers, Event.ofMembers?_members] at hsome
  exact (Option.some.inj hsome).symm

/-! ## A line has no newline -/

/-- Characters that all stand on a line. -/
def Printed (cs : List Char) : Prop := ∀ c ∈ cs, 0x20 ≤ c.toNat

namespace Printed

theorem append {cs ds : List Char} (hcs : Printed cs) (hds : Printed ds) : Printed (cs ++ ds) := by
  intro c hc
  rcases List.mem_append.1 hc with hc | hc
  · exact hcs c hc
  · exact hds c hc

theorem cons {c : Char} {cs : List Char} (hc : 0x20 ≤ c.toNat) (hcs : Printed cs) :
    Printed (c :: cs) :=
  List.forall_mem_cons.2 ⟨hc, hcs⟩

theorem codeDigits :
    ∀ n, n < 0x20 →
      0x20 ≤ (Nat.digitChar (n / 16)).toNat ∧ 0x20 ≤ (Nat.digitChar (n % 16)).toNat := by
  decide

theorem escaped (c : Char) : Printed (escape c) := by
  unfold escape
  split
  case h_8 =>
    split
    case isTrue hcontrol =>
      obtain ⟨hhigh, hlow⟩ := codeDigits c.toNat hcontrol
      simp [Printed, hhigh, hlow]
    case isFalse hcontrol => simpa [Printed] using hcontrol
  all_goals simp [Printed]

theorem text (s : String) : Printed (Print.text s) := by
  have hchars : Printed (s.toList.flatMap escape) := by
    intro d hd
    obtain ⟨c, -, hd⟩ := List.mem_flatMap.1 hd
    exact escaped c d hd
  exact cons (by decide) (hchars.append (by simp [Printed]))

theorem natural (n : Nat) : Printed (Print.natural n) := by
  have htext : Print.natural n = Nat.toDigits 10 n := Nat.toList_repr
  intro c hc
  rw [htext] at hc
  have hdigit := isDigit_iff.1 (isDigit_of_mem_toDigits hc)
  omega

theorem integer (n : Int) : Printed (Print.integer n) := by
  cases n with
  | ofNat n => exact natural n
  | negSucc n =>
    have htext : Print.integer (Int.negSucc n) = '-' :: Print.natural (n + 1) :=
      String.toList_append (s := "-") (t := toString (n + 1))
    rw [htext]
    exact cons (by decide) (natural (n + 1))

theorem flag (b : Bool) : Printed (Print.flag b) := by
  cases b <;> simp [Printed, Print.flag]

theorem member (key : String) {value : List Char} (h : Printed value) :
    Printed (Print.member key value) :=
  (text key).append (cons (by decide) h)

theorem separated {xs : List (List Char)} (h : ∀ x ∈ xs, Printed x) :
    Printed (Print.separated xs) := by
  induction xs using Print.separated.induct with
  | case1 => simp [Printed, Print.separated]
  | case2 x => exact h x (by simp)
  | case3 x xs hmore ih =>
    rw [Print.separated]
    · exact (h x (by simp)).append (cons (by decide) (ih fun y hy => h y (by simp [hy])))
    · exact hmore

theorem object {members : List (List Char)} (h : ∀ m ∈ members, Printed m) :
    Printed (Print.object members) :=
  cons (by decide) ((separated h).append (by simp [Printed]))

end Printed

theorem Event.printed (e : Event) : Printed e.print := by
  obtain ⟨id, action, bar⟩ := e
  refine Printed.object ?_
  intro m hm
  rcases List.mem_cons.1 hm with rfl | hm
  · exact .member _ (.text id)
  rcases List.mem_cons.1 hm with rfl | hm
  · exact .member _ (.text action)
  cases bar with
  | none => cases hm
  | some b =>
    rw [List.mem_singleton.1 hm]
    refine .member _ (.object ?_)
    intro m hm
    simp only [List.mem_cons, List.not_mem_nil, or_false] at hm
    rcases hm with rfl | rfl | rfl
    · exact .member _ (.integer b.current)
    · exact .member _ (.integer b.total)
    · exact .member _ (.flag b.hideCounts)

/-! ## Bytes -/

/-- The byte between lines. -/
def newline : UInt8 := 10

theorem newline_not_mem_bytes {s : String} (h : Printed s.toList) : newline ∉ bytes s := by
  intro hmem
  rw [bytes_eq] at hmem
  obtain ⟨c, hc, hb⟩ := List.mem_flatMap.1 hmem
  have hcode : c.toNat = 10 := toNat_of_mem_utf8EncodeChar hb (by decide)
  have hprinted := h c hc
  omega

theorem Event.newline_not_mem (e : Event) : newline ∉ bytes e.json := by
  refine newline_not_mem_bytes ?_
  rw [Event.json, String.toList_ofList]
  exact e.printed

/-! ## Lines -/

/-- Events one after another, up to the first that is refused. -/
def Output.emitAll (o : Output σ) (s : σ) : List Event → Except OutputError Unit × σ
  | [] => (.ok (), s)
  | e :: es =>
    match o.emit s e with
    | (.ok (), s) => o.emitAll s es
    | refused => refused

namespace JsonLines

/-- A line for each event. -/
def lines : List Event → String
  | [] => ""
  | e :: es => e.json ++ "\n" ++ lines es

/-- Nothing is written but the lines. -/
theorem emitAll_eq {d : Device} (hd : d.refusesWrites = false) (es : List Event) :
    Output.jsonLines.emitAll d es = (.ok (), { d with text := d.text ++ lines es }) := by
  induction es generalizing d with
  | nil => simp [Output.emitAll, lines]
  | cons e es ih =>
    have hemit : Output.jsonLines.emit d e =
        (.ok (), { d with text := d.text ++ (e.json ++ "\n") }) := by
      simp [Output.jsonLines, Device.writeAll_eq hd]
    have hnext := @ih { d with text := d.text ++ (e.json ++ "\n") } hd
    rw [Output.emitAll, hemit]
    simp only [hnext, lines, String.append_assoc]

theorem bytes_lines_cons (e : Event) (es : List Event) :
    bytes (lines (e :: es)) = bytes e.json ++ newline :: bytes (lines es) := by
  have hnewline : bytes "\n" = [newline] := by
    rw [bytes_eq]
    rfl
  rw [lines, bytes_append, bytes_append, hnewline, List.append_assoc, List.singleton_append]

/-- The last line is ended too, so nothing stands behind its newline. -/
theorem splitOn_lines (es : List Event) :
    (bytes (lines es)).splitOn newline = es.map (fun e => bytes e.json) ++ [[]] := by
  induction es with
  | nil => rfl
  | cons e es ih =>
    have hline : ∀ b ∈ bytes e.json, (b == newline) = false := by
      intro b hb
      exact beq_false_of_ne fun heq => e.newline_not_mem (heq ▸ hb)
    rw [List.splitOn] at ih ⊢
    rw [bytes_lines_cons,
      List.splitOnP_append_cons_of_forall_mem hline newline (beq_self_eq_true _), ih,
      List.map_cons, List.cons_append]

theorem lines_injective {es es' : List Event} (hes : ∀ e ∈ es, e.Fits) (hes' : ∀ e ∈ es', e.Fits)
    (h : lines es = lines es') : es = es' := by
  have hsplit := splitOn_lines es
  rw [h, splitOn_lines es'] at hsplit
  have hmap := List.append_cancel_right hsplit
  clear h hsplit
  induction es generalizing es' with
  | nil => exact (List.map_eq_nil_iff.1 hmap).symm
  | cons e es ih =>
    obtain ⟨e', es', rfl, hfirst, hrest⟩ := List.map_eq_cons_iff.1 hmap
    have heq : e' = e :=
      Event.json_injective (hes' e' (by simp)) (hes e (by simp)) (bytes_injective hfirst)
    rw [heq, ih (fun x hx => hes x (by simp [hx])) (fun x hx => hes' x (by simp [hx])) hrest]

/-- Events are written as a line each. A line has no newline, and it is a JSON object that holds
the parts of its event and no others; so other events would leave another text. -/
theorem framing {d : Device} (hd : d.refusesWrites = false) {es : List Event}
    (hes : ∀ e ∈ es, e.Fits) :
    ∃ written, Output.jsonLines.emitAll d es = (.ok (), { d with text := d.text ++ written }) ∧
      (bytes written).splitOn newline = es.map (fun e => bytes e.json) ++ [[]] ∧
      (∀ e ∈ es, newline ∉ bytes e.json ∧ Value.read e.json = .ok (.object e.members) ∧
        Event.ofMembers? e.members = some e) ∧
      ∀ es' : List Event, (∀ e ∈ es', e.Fits) →
        (Output.jsonLines.emitAll d es').2.text = d.text ++ written → es' = es := by
  refine ⟨lines es, emitAll_eq hd es, splitOn_lines es, ?_, ?_⟩
  · intro e he
    exact ⟨e.newline_not_mem, Event.read_json (hes e he), Event.ofMembers?_members e⟩
  · intro es' hes' htext
    rw [emitAll_eq hd es'] at htext
    exact lines_injective hes' hes (String.append_right_inj _ |>.1 htext)

private def awkward : List Event :=
  [⟨"a\\b\"c", "one\ntwo\x1b", some ⟨-9223372036854775808, 9223372036854775807, true⟩⟩,
    .message "né\x7f", ⟨"", "", some ⟨0, -1, false⟩⟩]

private theorem awkward_fits : ∀ e ∈ awkward, e.Fits := by
  intro e he b hb
  simp only [awkward, List.mem_cons, List.not_mem_nil, or_false] at he
  rcases he with rfl | rfl | rfl <;> cases hb <;>
    exact ⟨by decide, by decide, by decide, by decide⟩

/-- What looks like the end of a line or of a string is escaped. -/
theorem framing_of_awkward_events :
    (∀ e ∈ awkward, e.Fits) ∧
      ∃ written, Output.jsonLines.emitAll Device.empty awkward =
          (.ok (), { Device.empty with text := "" ++ written }) ∧
        (bytes written).splitOn newline =
          (["\x7b\"id\":\"a\\\\b\\\"c\",\"status\":\"one\\ntwo\\u001b\"," ++
              "\"progressDetail\":\x7b\"current\":-9223372036854775808," ++
              "\"total\":9223372036854775807,\"hidecounts\":true\x7d\x7d",
            "\x7b\"id\":\"\",\"status\":\"né\x7f\"\x7d",
            "\x7b\"id\":\"\",\"status\":\"\",\"progressDetail\":" ++
              "\x7b\"current\":0,\"total\":-1,\"hidecounts\":false\x7d\x7d"].map bytes ++
            [[]]) ∧
        awkward.map (fun e => Event.ofMembers? e.members) = awkward.map some := by
  have hempty : Device.empty.refusesWrites = false := rfl
  obtain ⟨written, hemit, hsplit, hlines, -⟩ := framing hempty awkward_fits
  refine ⟨awkward_fits, written, hemit, ?_, ?_⟩
  · have hjson : awkward.map (fun e => bytes e.json) = (awkward.map Event.json).map bytes :=
      List.map_map.symm
    rw [hsplit, hjson]
    exact congrArg (fun texts : List String => texts.map bytes ++ [[]]) (by decide +kernel)
  · exact List.map_congr_left fun e he => (hlines e he).2.2

end JsonLines
end Rollout
