import Mathlib.Data.List.TakeWhile
import Rollout.Proofs.Output.Cursor
import Rollout.Proofs.Output.Terminal

/-!
The rows of a terminal whose device refuses some of the writes. An id gets the row behind the last
line with its first event, even if the line of that event is refused: then the next line stands on
that row, and later events of the id go over it. Ids whose first line was taken own their rows, and
their events find them as long as the cursor waits behind the last line between events. It does so
unless an event was broken off, with some of its writes taken and others refused (`row_ownership`).
-/

namespace Rollout
namespace Terminal

/-- An event, and what the device takes while it is shown: so many writes, and flushes or not. No
event makes more than fourteen writes. -/
structure Try where
  event : Event
  taken : Nat
  refusesFlushes : Bool
  deriving Repr, DecidableEq

/-- A line is taken with its newline. -/
def Try.counts (x : Try) : Bool := 2 ≤ x.taken

/-- A terminal whose device takes as much as is tried. -/
def trying (t : Terminal) (x : Try) : Terminal :=
  { t with
    device := { t.device with
      refusesWrites := true
      spared := x.taken
      refusesFlushes := x.refusesFlushes } }

def attempt (t : Terminal) (x : Try) : Terminal := ((t.trying x).emit x.event).2

/-- A terminal after some events, of which the device may refuse any write. -/
def afterTries (t : Terminal) (xs : List Try) : Terminal := xs.foldl attempt t

/-! ## Who owns the lines -/

/-- The id of an event for which a line is added. A message has an empty one. -/
def added (before : List Event) (x : Try) : List String :=
  if opens before x.event && x.counts then [x.event.id] else []

def ownersAfter (before : List Event) : List Try → List String
  | [] => []
  | x :: xs => added before x ++ ownersAfter (before ++ [x.event]) xs

/-- The ids of the lines, in order. -/
def owners (xs : List Try) : List String := ownersAfter [] xs

/-- Was the line of the first event with an id taken, with its newline? -/
def firstTaken (xs : List Try) (id : String) : Bool :=
  (xs.find? fun x => x.event.id == id).any fun x => x.counts

/-- How many lines there were before the first event with an id. -/
def rowOf (xs : List Try) (id : String) : Nat :=
  (owners (xs.takeWhile fun x => x.event.id != id)).length

def rowOf? (xs : List Try) (id : String) : Option Nat :=
  if ∃ x ∈ xs, x.event.id = id then some (rowOf xs id) else none

variable {before : List Event} {xs : List Try} {x : Try} {id : String}

theorem opens_iff {e : Event} (he : e.id ≠ "") :
    opens before e = true ↔ ∀ x ∈ before, x.id ≠ e.id := by
  simp [opens, he]

theorem mem_added :
    id ∈ added before x ↔ opens before x.event = true ∧ x.counts = true ∧ x.event.id = id := by
  simp only [added, List.mem_ite_nil_right, Bool.and_eq_true, and_assoc,
    List.mem_singleton, eq_comm (a := id)]

theorem ownersAfter_append (before : List Event) (xs ys : List Try) :
    ownersAfter before (xs ++ ys) =
      ownersAfter before xs ++ ownersAfter (before ++ xs.map Try.event) ys := by
  induction xs generalizing before with
  | nil => simp [ownersAfter]
  | cons y xs ih =>
    simp only [List.cons_append, ownersAfter, ih (before ++ [y.event]), List.append_assoc,
      List.map_cons, List.nil_append]

theorem owners_snoc (xs : List Try) (x : Try) :
    owners (xs ++ [x]) = owners xs ++ added (xs.map Try.event) x := by
  simp [owners, ownersAfter_append, ownersAfter]

theorem firstTaken_of_eq (h : x.event.id = id) (xs : List Try) :
    firstTaken (x :: xs) id = x.counts := by
  simp [firstTaken, h]

theorem firstTaken_of_ne (h : x.event.id ≠ id) (xs : List Try) :
    firstTaken (x :: xs) id = firstTaken xs id := by
  simp [firstTaken, h]

/-- A line is added for an id with its first event or not at all. -/
theorem mem_ownersAfter (hid : id ≠ "") :
    id ∈ ownersAfter before xs ↔ (∀ e ∈ before, e.id ≠ id) ∧ firstTaken xs id = true := by
  induction xs generalizing before with
  | nil => simp [ownersAfter, firstTaken]
  | cons x xs ih =>
    rw [ownersAfter, List.mem_append, ih, mem_added]
    by_cases hx : x.event.id = id
    · have hlater : ¬ ∀ e ∈ before ++ [x.event], e.id ≠ id := fun h => h x.event (by simp) hx
      rw [opens_iff (hx ▸ hid), hx, firstTaken_of_eq hx, iff_false_intro hlater]
      simp
    · have hlater : (∀ e ∈ before ++ [x.event], e.id ≠ id) ↔ ∀ e ∈ before, e.id ≠ id := by
        simp [or_imp, forall_and, hx]
      rw [hlater, firstTaken_of_ne hx]
      simp [hx]

theorem mem_owners (hid : id ≠ "") : id ∈ owners xs ↔ firstTaken xs id = true := by
  simp [owners, mem_ownersAfter hid]

/-- No id owns two lines. -/
theorem ownersAfter_pairwise (before : List Event) (xs : List Try) :
    (ownersAfter before xs).Pairwise fun a b => b = "" ∨ a ≠ b := by
  induction xs generalizing before with
  | nil => exact .nil
  | cons x xs ih =>
    rw [ownersAfter, List.pairwise_append]
    refine ⟨?_, ih _, fun a ha b hb => ?_⟩
    · unfold added
      split
      · exact List.pairwise_singleton ..
      · exact .nil
    · rw [or_iff_not_imp_left]
      intro hb'
      rw [← (mem_added.1 ha).2.2]
      exact ((mem_ownersAfter hb').1 hb).1 x.event (by simp)

theorem owners_inj {i j : Nat} (hid : id ≠ "") (hi : (owners xs)[i]? = some id)
    (hj : (owners xs)[j]? = some id) : i = j := by
  obtain ⟨hi, hi'⟩ := List.getElem?_eq_some_iff.1 hi
  obtain ⟨hj, hj'⟩ := List.getElem?_eq_some_iff.1 hj
  have hpairs := List.pairwise_iff_getElem.1 (ownersAfter_pairwise [] xs)
  rcases Nat.lt_trichotomy i j with hlt | heq | hgt
  · exact ((hpairs i j hi hj hlt).elim (fun h => hid (hj'.symm.trans h))
      fun h => h (hi'.trans hj'.symm)).elim
  · exact heq
  · exact ((hpairs j i hj hi hgt).elim (fun h => hid (hi'.symm.trans h))
      fun h => h (hj'.trans hi'.symm)).elim

/-- The line of an id stands behind those that were there before its first event. -/
theorem ownersAfter_getElem? (hid : id ≠ "") (hbefore : ∀ e ∈ before, e.id ≠ id)
    (h : firstTaken xs id = true) :
    (ownersAfter before xs)[(ownersAfter before
      (xs.takeWhile fun x => x.event.id != id)).length]? = some id := by
  induction xs generalizing before with
  | nil => cases h
  | cons x xs ih =>
    by_cases hx : x.event.id = id
    · rw [firstTaken_of_eq hx] at h
      have hopens : opens before x.event = true := by
        rw [opens_iff (hx ▸ hid), hx]
        exact hbefore
      have hadded : added before x = [id] := by simp [added, hopens, h, hx]
      simp [ownersAfter, hx, hadded]
    · rw [firstTaken_of_ne hx] at h
      have hbefore' : ∀ e ∈ before ++ [x.event], e.id ≠ id := by
        simpa [or_imp, forall_and, hx] using hbefore
      have hcons : (x :: xs).takeWhile (fun x => x.event.id != id) =
          x :: xs.takeWhile fun x => x.event.id != id :=
        List.takeWhile_cons_of_pos (by simpa using hx)
      rw [hcons, ownersAfter, ownersAfter, List.length_append,
        List.getElem?_append_right (Nat.le_add_right _ _), Nat.add_sub_cancel_left]
      exact ih hbefore' h

theorem owners_rowOf (hid : id ≠ "") (h : firstTaken xs id = true) :
    (owners xs)[rowOf xs id]? = some id :=
  ownersAfter_getElem? hid (by simp) h

theorem rowOf?_of_mem (h : ∃ y ∈ xs, y.event.id = id) (ys : List Try) :
    rowOf? (xs ++ ys) id = rowOf? xs id := by
  have hstop : (xs.takeWhile fun x => x.event.id != id).length ≠ xs.length := by
    intro hall
    obtain ⟨y, hy, hid⟩ := h
    have hwhole := (List.takeWhile_prefix (fun x : Try => x.event.id != id)).eq_of_length hall
    simpa [hid] using List.takeWhile_eq_self_iff.1 hwhole y hy
  have hmore : ∃ y ∈ xs ++ ys, y.event.id = id := by
    obtain ⟨y, hy, hid⟩ := h
    exact ⟨y, List.mem_append_left _ hy, hid⟩
  rw [rowOf?, rowOf?, if_pos h, if_pos hmore, rowOf, List.takeWhile_append, if_neg hstop, ← rowOf]

/-- Other events do not change the row of an id. -/
theorem rowOf?_of_ne (h : x.event.id ≠ id) : rowOf? (xs ++ [x]) id = rowOf? xs id := by
  by_cases hmem : ∃ y ∈ xs, y.event.id = id
  · exact rowOf?_of_mem hmem [x]
  · have hnone : ¬ ∃ y ∈ xs ++ [x], y.event.id = id := by simpa [or_imp, forall_and, h] using hmem
    rw [rowOf?, rowOf?, if_neg hmem, if_neg hnone]

theorem rowOf?_of_new (h : ¬ ∃ y ∈ xs, y.event.id = x.event.id) :
    rowOf? (xs ++ [x]) x.event.id = some (owners xs).length := by
  have hall : ∀ y ∈ xs, (y.event.id != x.event.id) = true := by simpa using h
  rw [rowOf?, if_pos ⟨x, by simp, rfl⟩, rowOf, List.takeWhile_append_of_pos hall]
  simp

theorem rowOf_le (xs : List Try) (id : String) : rowOf xs id ≤ (owners xs).length := by
  have hsplit := xs.takeWhile_append_dropWhile (p := fun x => x.event.id != id)
  rw [rowOf]
  conv_rhs => rw [← hsplit, owners, ownersAfter_append, List.length_append]
  exact Nat.le_add_right _ _

/-! ## What an event does to a terminal -/

variable {t t' : Terminal}

/-- What an event adds to a terminal: a row for its id, a line, and text. -/
structure Adds (t t' : Terminal) (rows : List (String × Nat)) (line : Bool) (text : String) :
    Prop where
  isScreen : t'.isScreen = t.isScreen
  rows : t'.rows = rows ++ t.rows
  lines : t'.lines = t.lines + line.toNat
  text : t'.device.text = t.device.text ++ text

/-- The first of some texts, up to the one that is refused. -/
theorem writeAll_trying (t : Terminal) (x : Try) (texts : List String) :
    ∃ device, device.text = t.device.text ++ String.join (texts.take x.taken) ∧
      (t.trying x).writeAll texts =
        (if texts.length ≤ x.taken then .ok () else .error .writeRefused, { t with device }) := by
  rcases Nat.lt_or_ge x.taken texts.length with hpart | hall
  · have hwrite := Device.writeAll_refused (d := (t.trying x).device) rfl hpart
    exact ⟨_, rfl, by simp only [writeAll, hwrite, if_neg (Nat.not_le.2 hpart)]; rfl⟩
  · have hwrite := Device.writeAll_spared (d := (t.trying x).device) rfl hall
    refine ⟨_, ?_, by simp only [writeAll, hwrite, if_pos hall]; rfl⟩
    rw [List.take_of_length_le hall]
    rfl

theorem append_adds (t : Terminal) (x : Try) (line : String) :
    Adds t ((t.trying x).append line).2 [] x.counts (String.join ([line, "\n"].take x.taken)) := by
  obtain ⟨device, htext, hwrite⟩ := t.writeAll_trying x [line, "\n"]
  have hlength : [line, "\n"].length = 2 := rfl
  rw [append, hwrite, hlength, Try.counts]
  by_cases hcounts : 2 ≤ x.taken
  · rw [if_pos hcounts, decide_eq_true hcounts]
    exact ⟨rfl, rfl, rfl, htext⟩
  · rw [if_neg hcounts, decide_eq_false hcounts]
    exact ⟨rfl, rfl, rfl, htext⟩

theorem overwrite_adds (t : Terminal) (x : Try) (row : Nat) (line : String) :
    Adds t ((t.trying x).overwrite row line).2 [] false
      (String.join ((overwriting (min (t.lines - row) maxMove) line).take x.taken)) := by
  obtain ⟨device, htext, hwrite⟩ :=
    t.writeAll_trying x (overwriting (min (t.lines - row) maxMove) line)
  have hoverwrite : (t.trying x).overwrite row line =
      (t.trying x).writeAll (overwriting (min (t.lines - row) maxMove) line) := rfl
  rw [hoverwrite, hwrite]
  exact ⟨rfl, rfl, rfl, htext⟩

theorem Adds.flush {rows : List (String × Nat)} {line : Bool} {text : String}
    (h : Adds t t' rows line text) : Adds t t'.flush.2 rows line text := by
  obtain ⟨hscreen, hrows, hlines, htext⟩ := h
  unfold Terminal.flush Device.flush
  cases t'.device.refusesFlushes <;> exact ⟨hscreen, hrows, hlines, htext⟩

/-- An event with an id is put on its row, and then the device may be flushed. -/
theorem emit_adds {u : Terminal} {e : Event} {rows : List (String × Nat)} {line : Bool}
    {text : String} (hscreen : u.isScreen = true) (he : e.id ≠ "")
    (h : Adds t (u.place e.id (u.fit e.line)).2 rows line text) :
    Adds t (u.emit e).2 rows line text := by
  simp only [emit, hscreen, Bool.not_true, Bool.false_eq_true, if_false, he]
  split
  case h_1 hplace =>
    rw [hplace] at h
    exact h.flush
  case h_2 hplace =>
    rw [hplace] at h
    exact h

theorem attempt_message (hscreen : t.isScreen = true) (hx : x.event.id = "") :
    Adds t (t.attempt x) [] x.counts
      (String.join ([t.fit x.event.line, "\n"].take x.taken)) := by
  have hattempt : t.attempt x = ((t.trying x).append (t.fit x.event.line)).2 := by
    simp [attempt, trying, emit, hscreen, hx, fit]
  rw [hattempt]
  exact t.append_adds x _

/-- A new id gets its row also if its line is refused. -/
theorem attempt_new (hscreen : t.isScreen = true) (hx : x.event.id ≠ "")
    (hrow : t.row? x.event.id = none) :
    Adds t (t.attempt x) [(x.event.id, t.lines)] x.counts
      (String.join ([t.fit x.event.line, "\n"].take x.taken)) := by
  have hrow' : (t.trying x).row? x.event.id = none := hrow
  refine emit_adds (u := t.trying x) hscreen hx ?_
  simp only [place, hrow']
  obtain ⟨hscreen', hrows, hlines, htext⟩ :=
    append_adds { t with rows := (x.event.id, t.lines) :: t.rows } x (t.fit x.event.line)
  exact ⟨hscreen', hrows, hlines, htext⟩

theorem attempt_known (hscreen : t.isScreen = true) (hx : x.event.id ≠ "") {row : Nat}
    (hrow : t.row? x.event.id = some row) :
    Adds t (t.attempt x) [] false (String.join
      ((overwriting (min (t.lines - row) maxMove) (t.fit x.event.line)).take x.taken)) := by
  have hrow' : (t.trying x).row? x.event.id = some row := hrow
  refine emit_adds (u := t.trying x) hscreen hx ?_
  simp only [place, hrow']
  exact t.overwrite_adds x row _

/-! ## The rows that a terminal knows -/

/-- The writes for an event: a line at the end, if it opens a row, and else one that goes over the
line on the row of its id. -/
def writesFor (xs : List Try) (t : Terminal) (e : Event) : List String :=
  if opens (xs.map Try.event) e then [t.fit e.line, "\n"]
  else overwriting (min (t.lines - rowOf xs e.id) maxMove) (t.fit e.line)

/-- A terminal knows its lines, and the row of each id from the first event on. -/
structure Tracks (xs : List Try) (t : Terminal) : Prop where
  isScreen : t.isScreen = true
  lines : t.lines = (owners xs).length
  rows : ∀ id, id ≠ "" → t.row? id = rowOf? xs id

theorem opens_eq_true (h : x.event.id = "" ∨ ¬ ∃ y ∈ xs, y.event.id = x.event.id) :
    opens (xs.map Try.event) x.event = true := by
  simpa [opens] using h

theorem opens_eq_false (hx : x.event.id ≠ "") (h : ∃ y ∈ xs, y.event.id = x.event.id) :
    opens (xs.map Try.event) x.event = false := by
  simpa [opens, hx] using h

theorem length_owners_snoc (xs : List Try) (x : Try) : (owners (xs ++ [x])).length =
    (owners xs).length + (opens (xs.map Try.event) x.event && x.counts).toNat := by
  rw [owners_snoc, added, List.length_append]
  cases opens (xs.map Try.event) x.event && x.counts <;> rfl

/-- What an event adds to a terminal that knows its lines, and the rows that it knows then. -/
theorem Tracks.adds (h : Tracks xs t) (x : Try) :
    ∃ rows, Adds t (t.attempt x) rows (opens (xs.map Try.event) x.event && x.counts)
        (String.join ((writesFor xs t x.event).take x.taken)) ∧
      ∀ id, id ≠ "" → (rows ++ t.rows).lookup id = rowOf? (xs ++ [x]) id := by
  obtain ⟨hscreen, hlines, hrows⟩ := h
  by_cases hmessage : x.event.id = ""
  · rw [writesFor, opens_eq_true (.inl hmessage)]
    refine ⟨[], attempt_message hscreen hmessage, fun id hid => ?_⟩
    rw [rowOf?_of_ne fun h => hid (h.symm.trans hmessage), ← hrows id hid]
    rfl
  · have hrow := hrows x.event.id hmessage
    by_cases hknown : ∃ y ∈ xs, y.event.id = x.event.id
    · rw [rowOf?, if_pos hknown] at hrow
      rw [writesFor, opens_eq_false hmessage hknown]
      refine ⟨[], attempt_known hscreen hmessage hrow, fun id hid => ?_⟩
      have hsame : rowOf? (xs ++ [x]) id = rowOf? xs id := by
        by_cases hx : x.event.id = id
        · exact rowOf?_of_mem (hx ▸ hknown) [x]
        · exact rowOf?_of_ne hx
      rw [hsame, ← hrows id hid]
      rfl
    · rw [rowOf?, if_neg hknown] at hrow
      rw [writesFor, opens_eq_true (.inr hknown)]
      refine ⟨_, attempt_new hscreen hmessage hrow, fun id hid => ?_⟩
      rw [List.singleton_append, List.lookup_cons]
      by_cases hx : x.event.id = id
      · subst hx
        simp [rowOf?_of_new hknown, hlines]
      · have hother : (id == x.event.id) = false := beq_false_of_ne (Ne.symm hx)
        rw [hother, rowOf?_of_ne hx, ← hrows id hid]
        rfl

theorem Tracks.attempt (h : Tracks xs t) (x : Try) : Tracks (xs ++ [x]) (t.attempt x) := by
  obtain ⟨rows, hadds, hrows⟩ := h.adds x
  refine ⟨hadds.isScreen.trans h.isScreen, ?_, fun id hid => ?_⟩
  · rw [hadds.lines, h.lines, length_owners_snoc]
  · rw [row?, hadds.rows, hrows id hid]

theorem afterTries_snoc (t : Terminal) (xs : List Try) (x : Try) :
    t.afterTries (xs ++ [x]) = (t.afterTries xs).attempt x := by
  rw [afterTries, List.foldl_append]
  rfl

theorem tracks_afterTries (device : Device) (width : Option Nat) (xs : List Try) :
    Tracks xs ((start device true width).afterTries xs) := by
  induction xs using List.reverseRecOn with
  | nil => exact ⟨rfl, rfl, fun _ _ => by simp [afterTries, start, row?, rowOf?]⟩
  | append_singleton xs x ih =>
    rw [afterTries_snoc]
    exact ih.attempt x

/-! ## Where the cursor waits -/

/-- Some of the writes for an event were taken, and the others refused. -/
def brokenOff (xs : List Try) (x : Try) : Bool :=
  0 < x.taken && x.taken < if opens (xs.map Try.event) x.event then 2 else 14

/-- No event was broken off, and none with a known id was shown while there was no line. -/
def Unbroken (xs : List Try) : Prop :=
  ∀ before x after, xs = before ++ x :: after → brokenOff before x = false ∧
    (opens (before.map Try.event) x.event = true ∨ x.taken = 0 ∨ 0 < (owners before).length)

theorem Tracks.lines_attempt (h : Tracks xs t) (x : Try) : (t.attempt x).lines =
    t.lines + (opens (xs.map Try.event) x.event && x.counts).toNat := by
  obtain ⟨_, hadds, -⟩ := h.adds x
  exact hadds.lines

/-- The way up from behind the last line to a row. -/
theorem distance_le (t : Terminal) (row : Nat) (h : 0 < t.lines) :
    max 1 (min (t.lines - row) maxMove) ≤ t.lines := by
  omega

/-- An event that opens a row adds its line, if that is taken with its newline. -/
theorem Tracks.lines_opened (h : Tracks xs t)
    (hopens : opens (xs.map Try.event) x.event = true) :
    (t.attempt x).lines = if 2 ≤ x.taken then t.lines + 1 else t.lines := by
  rw [h.lines_attempt x, hopens, Bool.true_and, Try.counts]
  split
  case isTrue htaken => rw [decide_eq_true htaken, Bool.toNat_true]
  case isFalse htaken => rw [decide_eq_false htaken, Bool.toNat_false, Nat.add_zero]

theorem Tracks.lines_known (h : Tracks xs t)
    (hopens : opens (xs.map Try.event) x.event = false) : (t.attempt x).lines = t.lines := by
  rw [h.lines_attempt x, hopens, Bool.false_and, Bool.toNat_false, Nat.add_zero]

theorem Tracks.rests (h : Tracks xs t) {s : Screen} (hs : s.Rests t.lines)
    (hx : x.event.Printable) (hbroken : brokenOff xs x = false)
    (hline : opens (xs.map Try.event) x.event = true ∨ x.taken = 0 ∨ 0 < t.lines) :
    (s.typeAll ((writesFor xs t x.event).take x.taken)).Rests (t.attempt x).lines := by
  have hprintable := t.printable_fit hx
  rw [writesFor]
  rw [brokenOff] at hbroken
  cases hopens : opens (xs.map Try.event) x.event with
  | true =>
    rw [hopens] at hbroken
    have htaken : x.taken ≠ 1 := by
      rintro htaken
      simp [htaken] at hbroken
    rw [h.lines_opened hopens]
    exact hs.take_line hprintable htaken
  | false =>
    rw [hopens] at hbroken hline
    rw [h.lines_known hopens]
    have htaken : x.taken = 0 ∨ 14 ≤ x.taken := by
      simp at hbroken
      omega
    rcases htaken with htaken | htaken
    · rw [htaken]
      exact hs
    · have hpositive : 0 < t.lines := by
        rcases hline with hline | hline | hline
        · cases hline
        · omega
        · exact hline
      exact hs.take_overwriting hprintable (t.distance_le _ hpositive) (.inr htaken)

/-- Behind an event the cursor waits as before, unless the event was broken off. -/
theorem Tracks.rests_iff (h : Tracks xs t) {s : Screen} (hs : s.Rests t.lines)
    (hx : x.event.Printable) (hne : t.fit x.event.line ≠ "")
    (hline : opens (xs.map Try.event) x.event = true ∨ 0 < t.lines) :
    (s.typeAll ((writesFor xs t x.event).take x.taken)).Rests (t.attempt x).lines ↔
      brokenOff xs x = false := by
  refine ⟨fun hrests => ?_, fun hbroken => h.rests hs hx hbroken (hline.imp_right .inr)⟩
  have hprintable := t.printable_fit hx
  rw [writesFor] at hrests
  rw [brokenOff]
  cases hopens : opens (xs.map Try.event) x.event with
  | true =>
    rw [hopens, h.lines_opened hopens] at hrests
    have htaken := (Screen.rests_take_line_iff hs hprintable hne x.taken).1 hrests
    simp
    omega
  | false =>
    rw [h.lines_known hopens] at hrests
    rw [hopens] at hrests hline
    have hpositive : 0 < t.lines := hline.resolve_left Bool.false_ne_true
    have htaken := (Screen.rests_take_overwriting_iff hs hprintable hne
      (t.distance_le _ hpositive) x.taken).1 hrests
    simp
    omega

theorem rests_afterTries {device : Device} (hempty : device.text = "") (width : Option Nat)
    {xs : List Try} (hxs : ∀ x ∈ xs, x.event.Printable) (h : Unbroken xs) :
    let t := (start device true width).afterTries xs
    (Screen.shown t.device.text).Rests t.lines := by
  induction xs using List.reverseRecOn with
  | nil =>
    show (Screen.shown device.text).Rests 0
    rw [hempty]
    exact ⟨rfl, rfl, rfl⟩
  | append_singleton xs x ih =>
    have htracks := tracks_afterTries device width xs
    have hbefore := ih (fun y hy => hxs y (List.mem_append_left _ hy)) fun before y after hsplit =>
      h before y (after ++ [x]) (by rw [hsplit, List.append_assoc]; rfl)
    obtain ⟨hbroken, hline⟩ := h xs x [] rfl
    obtain ⟨_, hadds, -⟩ := htracks.adds x
    rw [← htracks.lines] at hline
    intro t
    have hattempt : t = ((start device true width).afterTries xs).attempt x :=
      afterTries_snoc ..
    rw [hattempt, hadds.text, Screen.shown_join]
    exact htracks.rests hbefore (hxs x (by simp)) hbroken hline

/-! ## Whose line an event goes over -/

/-- A row is the own one of an id exactly if the first line of the id was taken, and the row is the
one that was behind the lines before it. -/
theorem owners_reached (hid : id ≠ "") {row : Nat} :
    (owners xs)[row]? = some id ↔ firstTaken xs id = true ∧ row = rowOf xs id := by
  constructor
  · intro hown
    have htaken := (mem_owners hid).1 (List.mem_of_getElem? hown)
    exact ⟨htaken, owners_inj hid hown (owners_rowOf hid htaken)⟩
  · rintro ⟨htaken, rfl⟩
    exact owners_rowOf hid htaken

theorem rowOf_lt (hid : id ≠ "") (h : firstTaken xs id = true) :
    rowOf xs id < (owners xs).length :=
  (List.getElem?_eq_some_iff.1 (owners_rowOf hid h)).1

/-- The row of an id is the one behind the lines that were there before its first event. If the line
of that event was taken the row is its own, and of such ids no two share a row; otherwise no line
belongs to the id. What is written for an event is the part that is taken of its writes. A cursor
that waits behind the last line does so again behind an event, unless the event was broken off; so
it does at the end of a run in which none was. From there a later event of an id is written on its
own line exactly if there is one, and it is within reach of the cursor. From another row it is not,
but for a first line that the cursor stops at. -/
theorem row_ownership (device : Device) (width : Option Nat) (xs : List Try) :
    let t := (start device true width).afterTries xs
    t.lines = (owners xs).length ∧
    (∀ id, id ≠ "" → t.row? id = rowOf? xs id ∧ rowOf xs id ≤ t.lines ∧
      (firstTaken xs id = true → (owners xs)[rowOf xs id]? = some id) ∧
      (firstTaken xs id = false → id ∉ owners xs)) ∧
    (∀ id id' row, id ≠ "" → id' ≠ "" → firstTaken xs id = true → firstTaken xs id' = true →
      t.row? id = some row → t.row? id' = some row → id = id') ∧
    (∀ x, (t.attempt x).device.text =
      t.device.text ++ String.join ((writesFor xs t x.event).take x.taken)) ∧
    (∀ (x : Try) (s : Screen), s.Rests t.lines → x.event.Printable → t.fit x.event.line ≠ "" →
      opens (xs.map Try.event) x.event = true ∨ 0 < t.lines →
      ((s.typeAll ((writesFor xs t x.event).take x.taken)).Rests (t.attempt x).lines ↔
        brokenOff xs x = false)) ∧
    (device.text = "" → (∀ x ∈ xs, x.event.Printable) → Unbroken xs →
      (Screen.shown t.device.text).Rests t.lines) ∧
    ∀ id, id ≠ "" → ∀ s : Screen, s.input = .plain →
      let reached := s.typeAll (up (min (t.lines - rowOf xs id) maxMove))
      (s.row = t.lines → ((owners xs)[reached.row]? = some id ↔
        firstTaken xs id = true ∧ t.lines - rowOf xs id ≤ maxMove)) ∧
      (s.row ≠ t.lines → t.lines - rowOf xs id ≤ maxMove → ((owners xs)[reached.row]? = some id ↔
        firstTaken xs id = true ∧ rowOf xs id = 0 ∧ s.row < t.lines)) := by
  intro t
  have htracks : Tracks xs t := tracks_afterTries device width xs
  have hlines := htracks.lines
  have hrows := htracks.rows
  refine ⟨hlines, fun id hid => ⟨hrows id hid, hlines ▸ rowOf_le xs id, owners_rowOf hid, ?_⟩, ?_,
    fun x => ?_, fun x s => htracks.rests_iff, fun hempty => rests_afterTries hempty width, ?_⟩
  · intro hrefused hmem
    rw [mem_owners hid, hrefused] at hmem
    cases hmem
  · intro id id' row hid hid' htaken htaken' hrow hrow'
    have hat : ∀ id, id ≠ "" → t.row? id = some row → rowOf xs id = row := by
      intro id hid hrow
      rw [hrows id hid, rowOf?, Option.ite_none_right_eq_some] at hrow
      exact Option.some.inj hrow.2
    have hown := owners_rowOf hid htaken
    have hown' := owners_rowOf hid' htaken'
    rw [hat id hid hrow] at hown
    rw [hat id' hid' hrow'] at hown'
    exact Option.some.inj (hown.symm.trans hown')
  · obtain ⟨_, hadds, -⟩ := htracks.adds x
    exact hadds.text
  · intro id hid s hinput reached
    have hreached : reached.row = s.row - max 1 (min (t.lines - rowOf xs id) maxMove) := by
      simp only [reached, Screen.typeAll_up hinput]
    have hmove : 0 < maxMove := by decide
    have hlt : firstTaken xs id = true → rowOf xs id < t.lines := fun htaken =>
      hlines ▸ rowOf_lt hid htaken
    rw [owners_reached hid, hreached]
    refine ⟨fun hs => and_congr_right fun htaken => ?_, fun hs hreach =>
      and_congr_right fun htaken => ?_⟩
    · have hbelow := hlt htaken
      omega
    · have hbelow := hlt htaken
      omega

private def first : Try := ⟨.act "a" "1", 14, false⟩

private def second : Try := ⟨.act "b" "2", 14, false⟩

/-- Three ways to the line of another id. The line of the first event of `a` is refused, so `b`
stands on its row, and the next event of `a` goes over it. Its newline is refused, so `b` stands
behind it on one row. Or its second event is broken off behind the move up, so the cursor does not
wait behind the last line any more, and the next event of `b` goes over the line of `a`. -/
theorem row_ownership_after_refusal :
    (let xs : List Try := [{ first with taken := 0 }, second]
      let t := (start Device.empty true none).afterTries xs
      t.row? "a" = some 0 ∧ t.row? "b" = some 0 ∧ owners xs = ["b"] ∧
        (t.attempt ⟨.act "a" "3", 14, false⟩).device.text =
          "b: 2\n" ++ String.join (overwriting 1 "a: 3") ∧
        (Screen.shown t.device.text).Rests t.lines ∧
        (owners xs)[((Screen.shown t.device.text).typeAll (up 1)).row]? ≠ some "a") ∧
    (let xs : List Try := [{ first with taken := 1 }]
      let t := (start Device.empty true none).afterTries xs
      t.row? "a" = some 0 ∧ owners xs = [] ∧
        ¬ (Screen.shown t.device.text).Rests t.lines ∧
        (t.attempt second).device.text = "a: 1b: 2\n" ∧ (t.attempt second).row? "b" = some 0) ∧
    let xs : List Try := [first, second, ⟨.act "a" "3", 3, false⟩]
    let t := (start Device.empty true none).afterTries xs
    t.row? "a" = some 0 ∧ t.row? "b" = some 1 ∧ owners xs = ["a", "b"] ∧
      ¬ (Screen.shown t.device.text).Rests t.lines ∧
      (owners xs)[((Screen.shown t.device.text).typeAll (up 1)).row]? = some "a" := by
  refine ⟨?_, ?_, ?_⟩
  · intro xs t
    obtain ⟨-, -, -, htext, -, -, hown⟩ := row_ownership Device.empty none xs
    have hrests : (Screen.shown t.device.text).Rests t.lines := by decide +kernel
    have hnot := ((hown "a" (by decide) _ hrests.input).1 hrests.row).not.2 (by decide +kernel)
    refine ⟨by decide +kernel, by decide +kernel, by decide +kernel, ?_, hrests, hnot⟩
    rw [htext]
    decide +kernel
  · intro xs t
    obtain ⟨-, -, -, htext, -⟩ := row_ownership Device.empty none xs
    refine ⟨by decide +kernel, by decide +kernel, by decide +kernel, ?_, by decide +kernel⟩
    rw [htext]
    decide +kernel
  · decide +kernel

end Terminal
end Rollout
