import Mathlib.Data.List.Induction
import Rollout.Proofs.Output.Device
import Rollout.Proofs.Output.Screen

/-!
What a terminal shows. Every id has one row and every message its own, in the order of their first
events, and each row shows the latest event of its id: for events without control characters the
text that is written leaves exactly these rows on a screen (`screen_fidelity`).
-/

namespace Rollout
namespace Terminal

/-! ## The rows that belong on a screen -/

/-- An event opens a row if it is a message, or the first one with its id. -/
def opens (before : List Event) (e : Event) : Bool :=
  e.id == "" || before.all fun x => x.id != e.id

def openersAfter (before : List Event) : List Event → List Event
  | [] => []
  | e :: es =>
    if opens before e then e :: openersAfter (before ++ [e]) es
    else openersAfter (before ++ [e]) es

/-- The events that open a row, in order. -/
def openers (es : List Event) : List Event := openersAfter [] es

/-- The last event with the id of an opener. A message stays what it is. -/
def latest (es : List Event) (opener : Event) : Event :=
  if opener.id = "" then opener else (es.filter fun e => e.id == opener.id).getLastD opener

/-- The part of a line that a row has room for. -/
def cut : Option Nat → List Char → List Char
  | none, line | some 0, line => line
  | some n, line => line.take n

def display (width : Option Nat) (es : List Event) : List (List Char) :=
  (openers es).map fun opener => cut width (latest es opener).line.toList

theorem openersAfter_snoc (before es : List Event) (e : Event) :
    openersAfter before (es ++ [e]) =
      openersAfter before es ++ if opens (before ++ es) e then [e] else [] := by
  induction es generalizing before with
  | nil => simp [openersAfter]
  | cons x es ih =>
    simp only [List.cons_append, openersAfter, ih (before ++ [x]), List.append_assoc,
      List.nil_append]
    split <;> rfl

theorem openers_snoc (es : List Event) (e : Event) :
    openers (es ++ [e]) = openers es ++ if opens es e then [e] else [] :=
  openersAfter_snoc [] es e

theorem openers_of_opens {es : List Event} {e : Event} (h : opens es e = true) :
    openers (es ++ [e]) = openers es ++ [e] := by
  simp [openers_snoc, h]

theorem openers_of_known {es : List Event} {e : Event} (h : opens es e = false) :
    openers (es ++ [e]) = openers es := by
  simp [openers_snoc, h]

theorem openers_sublist (es : List Event) : (openers es).Sublist es := by
  induction es using List.reverseRecOn with
  | nil => exact .slnil
  | append_singleton es e ih =>
    rw [openers_snoc]
    refine ih.append ?_
    split <;> simp

/-- Every id has a row. -/
theorem mem_openers_ids {es : List Event} {id : String} :
    id ∈ (openers es).map Event.id ↔ id ∈ es.map Event.id := by
  induction es using List.reverseRecOn with
  | nil => rfl
  | append_singleton es e ih =>
    cases hopens : opens es e with
    | true => simp only [openers_of_opens hopens, List.map_append, List.mem_append, ih]
    | false =>
      have hknown : e.id ∈ es.map Event.id := by
        obtain ⟨-, x, hx, hid⟩ : e.id ≠ "" ∧ ∃ x ∈ es, x.id = e.id := by
          simpa [opens] using hopens
        exact List.mem_map.2 ⟨x, hx, hid⟩
      rw [openers_of_known hopens, ih, List.map_append, List.mem_append]
      constructor
      · exact Or.inl
      · rintro (hid | hid)
        · exact hid
        · obtain rfl : id = e.id := by simpa using hid
          exact hknown

/-- No id has two rows. -/
theorem openers_pairwise (es : List Event) :
    (openers es).Pairwise fun a b => b.id = "" ∨ a.id ≠ b.id := by
  induction es using List.reverseRecOn with
  | nil => exact .nil
  | append_singleton es e ih =>
    cases hopens : opens es e with
    | false => rwa [openers_of_known hopens]
    | true =>
      rw [openers_of_opens hopens, List.pairwise_append]
      refine ⟨ih, List.pairwise_singleton _ _, fun a ha b hb => ?_⟩
      obtain rfl : b = e := by simpa using hb
      have hfirst : b.id = "" ∨ ∀ x ∈ es, x.id ≠ b.id := by simpa [opens] using hopens
      exact hfirst.imp_right fun h => h a ((openers_sublist es).subset ha)

/-- Every id that occurs has exactly one row. -/
theorem count_openers_ids (es : List Event) {id : String} (hid : id ≠ "") :
    ((openers es).map Event.id).count id = if id ∈ es.map Event.id then 1 else 0 := by
  have hnodup : ((openers es).map Event.id).Pairwise fun a b => b = "" ∨ a ≠ b :=
    List.pairwise_map.2 (openers_pairwise es)
  have hle : ((openers es).map Event.id).count id ≤ 1 := by
    by_contra hmany
    have htwice : [id, id].Sublist ((openers es).map Event.id) :=
      List.replicate_sublist_iff.2 (Nat.lt_of_not_le hmany)
    have hdiffer := hnodup.sublist htwice
    simp [hid] at hdiffer
  split
  case isTrue hmem =>
    have hpos := List.count_pos_iff.2 (mem_openers_ids.2 hmem)
    omega
  case isFalse hmem => exact List.count_eq_zero.2 fun hrow => hmem (mem_openers_ids.1 hrow)

/-- Every message has a row. -/
theorem filter_openers_messages (es : List Event) :
    (openers es).filter (fun e => e.id == "") = es.filter fun e => e.id == "" := by
  induction es using List.reverseRecOn with
  | nil => rfl
  | append_singleton es e ih =>
    rw [openers_snoc, List.filter_append, List.filter_append, ih]
    congr 1
    by_cases hmessage : e.id = ""
    · simp [opens, hmessage]
    · split <;> simp [hmessage]

theorem latest_snoc (es : List Event) (e opener : Event) :
    latest (es ++ [e]) opener =
      if opener.id ≠ "" ∧ opener.id = e.id then e else latest es opener := by
  by_cases hmessage : opener.id = ""
  · simp [latest, hmessage]
  · by_cases hid : opener.id = e.id
    · simp [latest, hid, hid ▸ hmessage]
    · simp [latest, hmessage, hid, Ne.symm hid]

/-- An event that opens a row is shown behind all others. -/
theorem display_of_opens {es : List Event} {e : Event} (width : Option Nat)
    (h : opens es e = true) :
    display width (es ++ [e]) = display width es ++ [cut width e.line.toList] := by
  have hown : latest (es ++ [e]) e = e := by
    rw [latest_snoc]
    split
    · rfl
    · simp_all [latest]
  have hothers : ∀ opener ∈ openers es, latest (es ++ [e]) opener = latest es opener := by
    intro opener hopener
    rw [latest_snoc, if_neg]
    rintro ⟨hid, hsame⟩
    have hfirst : e.id = "" ∨ ∀ x ∈ es, x.id ≠ e.id := by simpa [opens] using h
    rcases hfirst with hmessage | hfirst
    · exact hid (hsame.trans hmessage)
    · exact hfirst opener ((openers_sublist es).subset hopener) hsame
  rw [display, openers_of_opens h, List.map_append, List.map_singleton, hown]
  congr 1
  exact List.map_congr_left fun opener hopener => by rw [hothers opener hopener]

/-- An event with a known id changes the row of its id, and no other. -/
theorem display_of_known {es : List Event} {e : Event} (width : Option Nat)
    (h : opens es e = false) {row : Nat}
    (hrow : (openers es).findIdx? (fun x => x.id == e.id) = some row) :
    display width (es ++ [e]) = (display width es).set row (cut width e.line.toList) := by
  have hid : e.id ≠ "" := by
    rintro hmessage
    simp [opens, hmessage] at h
  obtain ⟨hlt, hat, -⟩ := List.findIdx?_eq_some_iff_getElem.1 hrow
  have hat : (openers es)[row].id = e.id := by simpa using hat
  have hunique : ∀ i (hi : i < (openers es).length), (openers es)[i].id = e.id → i = row := by
    intro i hi hsame
    have hpairs := List.pairwise_iff_getElem.1 (openers_pairwise es)
    rcases Nat.lt_trichotomy i row with hbefore | heq | hbehind
    · have := hpairs i row hi hlt hbefore
      simp_all
    · exact heq
    · have := hpairs row i hlt hi hbehind
      simp_all
  rw [display, openers_of_known h]
  refine List.ext_getElem (by simp [display]) fun i hi _ => ?_
  have hi : i < (openers es).length := by simpa using hi
  rw [List.getElem_map, latest_snoc, List.getElem_set]
  by_cases hplace : row = i
  · subst hplace
    rw [if_pos rfl, if_pos ⟨hat ▸ hid, hat⟩]
  · rw [if_neg hplace, if_neg fun hsame => hplace (hunique i hi hsame.2).symm]
    simp [display]

end Terminal

/-! ## Lines of printable text -/

/-- Neither the id nor the action holds a control character. -/
def Event.Printable (e : Event) : Prop :=
  Screen.Printable e.id.toList ∧ Screen.Printable e.action.toList

instance (e : Event) : Decidable e.Printable :=
  inferInstanceAs (Decidable (_ ∧ _))

namespace Screen

theorem Printable.append {a b : List Char} (ha : Printable a) (hb : Printable b) :
    Printable (a ++ b) := by
  intro c hc
  rcases List.mem_append.1 hc with hc | hc
  · exact ha c hc
  · exact hb c hc

theorem printable_digits (n : Nat) : Printable (toString n).toList := by
  intro c hc
  have htext : (toString n).toList = Nat.toDigits 10 n := Nat.toList_repr
  have hdigit : c.isDigit = true :=
    Nat.isDigit_of_mem_toDigits (by decide) (by decide) (htext ▸ hc)
  have hrange : 48 ≤ c.toNat ∧ c.toNat ≤ 57 := by
    simpa [Char.isDigit, UInt32.le_iff_toNat_le] using hdigit
  simp [isControl]
  omega

theorem printable_integer (n : Int) : Printable (toString n).toList := by
  cases n with
  | ofNat n => exact printable_digits n
  | negSucc n =>
    have htext : (toString (Int.negSucc n)).toList = "-".toList ++ (toString (n + 1)).toList := by
      rw [← String.toList_append]
      rfl
    rw [htext]
    exact Printable.append (by decide) (printable_digits _)

theorem printable_drawing (b : Bar) : Printable b.drawing := by
  have hcells : ∀ n c, c = ' ' ∨ c = '=' → Printable (List.replicate n c) := by
    rintro n c hc d hd
    obtain ⟨-, rfl⟩ := List.mem_replicate.1 hd
    rcases hc with rfl | rfl <;> decide
  unfold Bar.drawing
  split
  · exact hcells _ _ (.inl rfl)
  · split
    · exact hcells _ _ (.inr rfl)
    · have hhead : Printable ['>'] := by decide
      exact (hcells _ _ (.inr rfl)).append (hhead.append (hcells _ _ (.inl rfl)))

theorem printable_bar (b : Bar) : Printable (b.render ++ b.counts).toList := by
  have hrender : Printable b.render.toList := by
    simp only [Bar.render, String.toList_append, String.toList_ofList]
    exact (Printable.append (by decide) (printable_drawing b)).append (by decide)
  have hcounts : Printable b.counts.toList := by
    unfold Bar.counts
    split
    · decide
    · simp only [String.toList_append]
      exact ((Printable.append (by decide) (printable_integer _)).append (by decide)).append
        (printable_integer _)
  rw [String.toList_append]
  exact hrender.append hcounts

/-- The line of an event is as printable as its id and its action are. -/
theorem printable_line {e : Event} (h : e.Printable) : Printable e.line.toList := by
  obtain ⟨hid, haction⟩ := h
  have hlabel : Printable (if e.id = "" then "" else e.id ++ ": ").toList := by
    split
    · decide
    · rw [String.toList_append]
      exact hid.append (by decide)
  unfold Event.line
  rw [String.toList_append, String.toList_append]
  refine (hlabel.append haction).append ?_
  cases e.bar with
  | none => decide
  | some b =>
    have hblank : Printable " ".toList := by decide
    show Printable (" " ++ b.render ++ b.counts).toList
    rw [String.append_assoc, String.toList_append]
    exact hblank.append (printable_bar b)

end Screen

/-! ## The text that is written -/

namespace Terminal

variable {t : Terminal} {width : Option Nat} {es : List Event} {e : Event}

theorem fit_toList (t : Terminal) (line : String) :
    (t.fit line).toList = cut t.width line.toList := by
  unfold fit
  split
  case h_1 n hn =>
    cases n with
    | zero => simp [hn, cut]
    | succ n => simp [hn, cut]
  case h_2 hn => simp [hn, cut]

theorem printable_cut {line : List Char} (h : Screen.Printable line) :
    Screen.Printable (cut width line) := by
  unfold cut
  split
  · exact h
  · exact h
  · exact fun c hc => h c (List.mem_of_mem_take hc)

theorem printable_fit (t : Terminal) (he : e.Printable) :
    Screen.Printable (t.fit e.line).toList := by
  rw [fit_toList]
  exact printable_cut (Screen.printable_line he)

theorem writeAll_eq (h : t.device.refusesWrites = false) (texts : List String) :
    t.writeAll texts = (.ok (), { t with device.text := t.device.text ++ String.join texts }) := by
  simp only [writeAll, Device.writeAll_eq h]

theorem append_eq (h : t.device.refusesWrites = false) (line : String) :
    t.append line = (.ok (),
      { t with
        device.text := t.device.text ++ String.join [line, "\n"]
        lines := t.lines + 1 }) := by
  simp only [append, writeAll_eq h]

/-- The terminal knows the rows, and the text on its device shows them. -/
structure Mirrors (width : Option Nat) (es : List Event) (t : Terminal) : Prop where
  isScreen : t.isScreen = true
  fits : t.width = width
  writes : t.device.refusesWrites = false
  lines : t.lines = (openers es).length
  rows : ∀ id, id ≠ "" → t.row? id = (openers es).findIdx? fun e => e.id == id
  shown : Screen.shown t.device.text = Screen.showing (display width es)

namespace Mirrors

theorem flush (h : Mirrors width es t) : Mirrors width es t.flush.2 := by
  obtain ⟨hscreen, hfits, hwrites, hlines, hrows, hshown⟩ := h
  by_cases hrefuses : t.device.refusesFlushes
  · simp only [Terminal.flush, Device.flush, hrefuses, if_true]
    exact ⟨hscreen, hfits, hwrites, hlines, hrows, hshown⟩
  · simp only [Terminal.flush, Device.flush, hrefuses]
    exact ⟨hscreen, hfits, hwrites, hlines, hrows, hshown⟩

/-- A terminal knows the row of an id when it has one. -/
theorem row?_eq_none (h : Mirrors width es t) (hid : e.id ≠ "") :
    t.row? e.id = none ↔ opens es e = true := by
  have hopeners : t.row? e.id = none ↔ e.id ∉ (openers es).map Event.id := by
    simp [h.rows e.id hid]
  have hevents : opens es e = true ↔ e.id ∉ es.map Event.id := by
    simp [opens, hid]
  rw [hopeners, hevents, mem_openers_ids]

/-- A line that is appended shows an event that opens a row. -/
theorem append (h : Mirrors width es t) (he : e.Printable) (hopens : opens es e = true)
    {rows : List (String × Nat)}
    (hrows : ∀ id, id ≠ "" →
      rows.lookup id = (openers (es ++ [e])).findIdx? fun x => x.id == id) :
    Mirrors width (es ++ [e]) (Terminal.append { t with rows } (t.fit e.line)).2 := by
  obtain ⟨hscreen, hfits, hwrites, hlines, -, hshown⟩ := h
  have hline : (t.fit e.line).toList = cut width e.line.toList := by rw [fit_toList, hfits]
  have hprintable := t.printable_fit he
  rw [append_eq (t := { t with rows }) hwrites]
  refine ⟨hscreen, hfits, hwrites, ?_, hrows, ?_⟩
  · simp [hlines, openers_of_opens hopens]
  · rw [Screen.shown_join, hshown, Screen.typeAll_line hprintable, hline,
      display_of_opens width hopens]

/-- A line that goes over another one shows an event whose id has a row. -/
theorem overwrite (h : Mirrors width es t) (he : e.Printable) (hid : e.id ≠ "")
    (hopens : opens es e = false) {row : Nat} (hrow : t.row? e.id = some row)
    (hspace : (openers es).length ≤ maxMove) :
    Mirrors width (es ++ [e]) (t.overwrite row (t.fit e.line)).2 := by
  obtain ⟨hscreen, hfits, hwrites, hlines, hrows, hshown⟩ := h
  have hat : (openers es).findIdx? (fun x => x.id == e.id) = some row :=
    (hrows e.id hid).symm.trans hrow
  have hline : (t.fit e.line).toList = cut width e.line.toList := by rw [fit_toList, hfits]
  have hprintable := t.printable_fit he
  have hlength : (display width es).length = t.lines := by simp [display, hlines]
  have hlt : row < (display width es).length := by
    obtain ⟨hlt, -⟩ := List.findIdx?_eq_some_iff_getElem.1 hat
    rwa [hlength, hlines]
  have hdistance : min (t.lines - row) maxMove = (display width es).length - row := by omega
  rw [Terminal.overwrite, writeAll_eq hwrites, hdistance]
  refine ⟨hscreen, hfits, hwrites, ?_, ?_, ?_⟩
  · rw [openers_of_known hopens]
    exact hlines
  · rw [openers_of_known hopens]
    exact hrows
  · rw [Screen.shown_join, hshown, Screen.typeAll_overwrite hprintable hlt, hline,
      display_of_known width hopens hat]

/-- A new id is found on the row behind the last one. -/
theorem lookup_new (h : Mirrors width es t) (hid : e.id ≠ "") (hopens : opens es e = true)
    (id : String) (hne : id ≠ "") :
    List.lookup id ((e.id, t.lines) :: t.rows) =
      (openers (es ++ [e])).findIdx? fun x => x.id == id := by
  have hold : List.lookup id t.rows = (openers es).findIdx? fun x => x.id == id := h.rows id hne
  have hnew : t.row? e.id = none := (h.row?_eq_none hid).2 hopens
  rw [openers_of_opens hopens, List.findIdx?_append, ← hold, List.lookup_cons]
  by_cases hsame : id = e.id
  · subst hsame
    have hnone : List.lookup e.id t.rows = none := hnew
    simp [hnone, h.lines]
  · have hother : (id == e.id) = false := beq_false_of_ne hsame
    simp [hother, Ne.symm hsame]

/-- A message leaves the rows of the ids as they are. -/
theorem lookup_message (h : Mirrors width es t) (hmessage : e.id = "") (id : String)
    (hne : id ≠ "") :
    List.lookup id t.rows = (openers (es ++ [e])).findIdx? fun x => x.id == id := by
  have hopens : opens es e = true := by simp [opens, hmessage]
  have hold : List.lookup id t.rows = (openers es).findIdx? fun x => x.id == id := h.rows id hne
  rw [openers_of_opens hopens, List.findIdx?_append, ← hold]
  simp [hmessage, Ne.symm hne]

theorem emit (h : Mirrors width es t) (he : e.Printable)
    (hspace : (openers es).length ≤ maxMove) :
    Mirrors width (es ++ [e]) (t.emit e).2 := by
  have hscreen := h.isScreen
  have hwrites := h.writes
  by_cases hmessage : e.id = ""
  · have hopens : opens es e = true := by simp [opens, hmessage]
    have hemit : t.emit e = t.append (t.fit e.line) := by simp [Terminal.emit, hscreen, hmessage]
    rw [hemit]
    exact h.append he hopens (h.lookup_message hmessage)
  · have hemit : ∀ shown, t.place e.id (t.fit e.line) = (.ok (), shown) →
        t.emit e = shown.flush := by
      intro shown hplace
      simp [Terminal.emit, hscreen, hmessage, hplace]
    cases hrow : t.row? e.id with
    | none =>
      have hopens : opens es e = true := (h.row?_eq_none hmessage).1 hrow
      have hnext := h.append he hopens (h.lookup_new hmessage hopens)
      have hplace : t.place e.id (t.fit e.line) =
          Terminal.append { t with rows := (e.id, t.lines) :: t.rows } (t.fit e.line) := by
        simp only [place, hrow]
      rw [append_eq (t := { t with rows := (e.id, t.lines) :: t.rows }) hwrites] at hnext hplace
      rw [hemit _ hplace]
      exact hnext.flush
    | some row =>
      have hopens : opens es e = false := by
        rw [← Bool.not_eq_true, ← h.row?_eq_none hmessage, hrow]
        simp
      have hnext := h.overwrite he hmessage hopens hrow hspace
      have hplace : t.place e.id (t.fit e.line) = t.overwrite row (t.fit e.line) := by
        simp only [place, hrow]
      rw [Terminal.overwrite, writeAll_eq hwrites] at hnext hplace
      rw [hemit _ hplace]
      exact hnext.flush

end Mirrors

theorem mirrors_start {device : Device} (hempty : device.text = "")
    (hwrites : device.refusesWrites = false) (width : Option Nat) :
    Mirrors width [] (start device true width) where
  isScreen := rfl
  fits := rfl
  writes := hwrites
  lines := rfl
  rows _ _ := rfl
  shown := by
    have htext : (start device true width).device.text = "" := hempty
    rw [htext]
    rfl

/-- The terminal after some events. -/
def afterAll (t : Terminal) (es : List Event) : Terminal :=
  es.foldl (fun t e => (t.emit e).2) t

theorem mirrors_afterAll {device : Device} (hempty : device.text = "")
    (hwrites : device.refusesWrites = false) (width : Option Nat) (es : List Event)
    (hes : ∀ e ∈ es, e.Printable) (hspace : (openers es).length < 65536) :
    Mirrors width es ((start device true width).afterAll es) := by
  induction es using List.reverseRecOn with
  | nil => exact mirrors_start hempty hwrites width
  | append_singleton es e ih =>
    have hle : (openers es).length ≤ (openers (es ++ [e])).length := by
      rw [openers_snoc, List.length_append]
      exact Nat.le_add_right _ _
    have hbefore := ih (fun x hx => hes x (List.mem_append_left _ hx)) (by omega)
    have hstep := hbefore.emit (hes e (by simp)) (Nat.le_trans hle (Nat.le_of_lt_succ hspace))
    rw [afterAll, List.foldl_append]
    exact hstep

/-- A screen shows one row for every id and one for every message, in the order of their first
events, each with the latest event that belongs there, and the cursor waits behind them. -/
theorem screen_fidelity {device : Device} (hempty : device.text = "")
    (hwrites : device.refusesWrites = false) (width : Option Nat) (es : List Event)
    (hes : ∀ e ∈ es, e.Printable) (hspace : (openers es).length < 65536) :
    Screen.shown ((start device true width).afterAll es).device.text =
        Screen.showing (display width es) ∧
      (∀ id, id ≠ "" → ((openers es).map Event.id).count id =
        if id ∈ es.map Event.id then 1 else 0) ∧
      (openers es).filter (fun e => e.id == "") = es.filter fun e => e.id == "" := by
  have hmirrors := mirrors_afterAll hempty hwrites width es hes hspace
  exact ⟨hmirrors.shown, fun id hid => count_openers_ids es hid, filter_openers_messages es⟩

private def pulls : List Event :=
  [.act "a1" "Downloading layers", .message "overall progress", .withBar "b2" "Pulling" 3 4,
    .act "a1" "Done", .message "verified"]

/-- A shorter line leaves nothing of the longer one that stood on its row. -/
theorem screen_fidelity_of_pulls :
    Screen.shown ((start Device.empty true (some 12)).afterAll pulls).device.text =
      Screen.showing
        ["a1: Done".toList, "overall prog".toList, "b2: Pulling ".toList, "verified".toList] := by
  have hfidelity := screen_fidelity (show Device.empty.text = "" from rfl) rfl (some 12) pulls
    (by decide) (by decide)
  exact hfidelity.1.trans (congrArg Screen.showing (by decide))

end Terminal
end Rollout
