import Mathlib.Computability.Language
import Rollout.Proofs.Session.History

/-!
The notices about stability, as the history of a session has them due. A countdown goes with a
stretch of updates that converge, and a notice of failure ends it; so they form a word of a regular
language (`History.noticeWords_of_range`), and their numbers tell the time that is left
(`History.Countdown`). A number is counted in a word of 64 bits, so it tells the time of a window
with fewer seconds than that.
-/

namespace Rollout.Session

open scoped Computability

/-! ## The language of the notices -/

/-- The line that tells so many seconds to wait. -/
def countdownLine (seconds : Nat) : Event :=
  .act "verify" ("Waiting " ++ toString seconds ++ " seconds to verify that tasks are stable...")

def waiting : Language Event := {es | ∃ seconds, es = [countdownLine seconds]}

/-- One waiting notice or more. -/
def waitings : Language Event := waiting * waiting∗

/-- Stretches that ended with a failure. -/
def regressions : Language Event := (waitings * {[failureNotice]})∗

/-- Stretches that ended with a failure, and perhaps one that goes on or after which the service
converged. -/
def noticeWords : Language Event :=
  regressions * (1 + waitings + waitings * {[convergedNotice]})

theorem kstar_snoc {l : Language Event} {es fs : List Event} (he : es ∈ l∗) (hf : fs ∈ l) :
    es ++ fs ∈ l∗ := by
  obtain ⟨words, rfl, hwords⟩ := Language.mem_kstar.1 he
  refine Language.mem_kstar.2 ⟨words ++ [fs], by simp, fun w hw => ?_⟩
  rcases List.mem_append.1 hw with hw | hw
  · exact hwords w hw
  · rwa [List.mem_singleton.1 hw]

theorem toNat_secondsBegun {left : Nat} (h : left / second + 1 < UInt64.size) :
    (secondsBegun left).toNat = left / second + 1 := by
  rw [secondsBegun, UInt64.toNat_add, UInt64.toNat_ofNat_of_lt' (by omega)]
  exact Nat.mod_eq_of_lt h

/-- The notice tells the seconds that are left, the one that has begun included. -/
theorem waitingNotice_eq {left : Nat} (h : left / second + 1 < UInt64.size) :
    waitingNotice left = countdownLine (left / second + 1) := by
  rw [← toNat_secondsBegun h]
  rfl

theorem waiting_mem (left : Nat) : [waitingNotice left] ∈ waiting :=
  ⟨(secondsBegun left).toNat, rfl⟩

theorem waitings_one (left : Nat) : [waitingNotice left] ∈ waitings :=
  Language.mem_mul.2 ⟨_, waiting_mem left, [], Language.nil_mem_kstar _, rfl⟩

theorem waitings_snoc {es : List Event} (he : es ∈ waitings) (left : Nat) :
    es ++ [waitingNotice left] ∈ waitings := by
  obtain ⟨first, hfirst, rest, hrest, rfl⟩ := Language.mem_mul.1 he
  rw [List.append_assoc]
  exact Language.mem_mul.2 ⟨first, hfirst, _, kstar_snoc hrest (waiting_mem left), rfl⟩

theorem regressions_snoc {es fs : List Event} (he : es ∈ regressions) (hf : fs ∈ waitings) :
    es ++ fs ++ [failureNotice] ∈ regressions := by
  rw [List.append_assoc]
  exact kstar_snoc he (Language.mem_mul.2 ⟨fs, hf, _, rfl, rfl⟩)

/-- A language of lines without bars. -/
def IsPlain (l : Language Event) : Prop := ∀ ⦃es⦄, es ∈ l → ∀ e ∈ es, e.bar = none

theorem IsPlain.mul {l l' : Language Event} (hl : IsPlain l) (hl' : IsPlain l') :
    IsPlain (l * l') := by
  intro es hes e he
  obtain ⟨a, ha, b, hb, rfl⟩ := Language.mem_mul.1 hes
  exact (List.mem_append.1 he).elim (hl ha e) (hl' hb e)

theorem IsPlain.add {l l' : Language Event} (hl : IsPlain l) (hl' : IsPlain l') :
    IsPlain (l + l') := by
  rintro es (hes | hes) e he
  · exact hl hes e he
  · exact hl' hes e he

theorem IsPlain.star {l : Language Event} (hl : IsPlain l) : IsPlain l∗ := by
  intro es hes e he
  obtain ⟨words, rfl, hwords⟩ := Language.mem_kstar.1 hes
  obtain ⟨w, hw, hew⟩ := List.mem_flatten.1 he
  exact hl (hwords w hw) e hew

theorem isPlain_one : IsPlain 1 := by
  rintro es rfl e he
  cases he

theorem isPlain_single {e : Event} (he : e.bar = none) : IsPlain {[e]} := by
  rintro es rfl f hf
  rwa [List.mem_singleton.1 hf]

theorem noticeWords_plain : IsPlain noticeWords := by
  have hwaiting : IsPlain waiting := by
    rintro es ⟨seconds, rfl⟩
    exact isPlain_single rfl rfl
  have hwaitings : IsPlain waitings := hwaiting.mul hwaiting.star
  have hopen : IsPlain (1 + waitings + waitings * {[convergedNotice]}) :=
    (isPlain_one.add hwaitings).add (hwaitings.mul (isPlain_single rfl))
  exact (hwaitings.mul (isPlain_single rfl)).star.mul hopen

/-! ## The notices of a history -/

namespace History

/-- The tick with which the stretch began that tick `k` belongs to, if its update converges. -/
def onset (h : History) : Nat → Nat
  | 0 => 0
  | k + 1 => if h.converged k then h.onset k else k + 1

/-- The time since the first update of the stretch. -/
def elapsed (h : History) (k : Nat) : Nat := h.updated k - h.updated (h.onset k)

/-- What tick `k` tells about stability behind its update. -/
def notices (h : History) (k : Nat) : List Event :=
  if h.converged k then
    if h.elapsed k ≤ h.window k then [waitingNotice (h.window k - h.elapsed k)] else []
  else if h.convergedBefore k then [failureNotice] else []

variable {h : History} {j k n : Nat}

theorem onset_le (h : History) (k : Nat) : h.onset k ≤ k := by
  induction k with
  | zero => exact Nat.le_refl 0
  | succ k ih =>
    rw [onset]
    split
    · omega
    · exact Nat.le_refl _

theorem onset_first (hb : h.convergedBefore k = false) : h.onset k = k := by
  cases k with
  | zero => rfl
  | succ k =>
    have hk : h.converged k = false := hb
    rw [onset, hk]
    rfl

theorem onset_stretch (hc : h.converged k = true) : h.Stretch (h.onset k) (k + 1) := by
  induction k with
  | zero => exact .single rfl hc
  | succ k ih =>
    rw [onset]
    cases hk : h.converged k with
    | true => exact (ih hk).snoc hc
    | false => exact .single hk hc

theorem Stretch.onset (hs : h.Stretch j (k + 1)) (hjk : j ≤ k) : h.onset k = j := by
  have hc : h.converged k = true := hs.2 k (by omega) hjk
  have honset := h.onset_le k
  exact Nat.le_antisymm (hs.le (onset_stretch hc) (by omega)) ((onset_stretch hc).le hs (by omega))

theorem notices_first (hc : h.converged k = true) (hb : h.convergedBefore k = false) :
    h.notices k = [waitingNotice (h.window k)] := by
  have he : h.elapsed k = 0 := by rw [elapsed, onset_first hb, Nat.sub_self]
  rw [notices, if_pos hc, he, if_pos (Nat.zero_le _), Nat.sub_zero]

theorem notices_lost (hc : h.converged k = false) :
    h.notices k = if h.convergedBefore k then [failureNotice] else [] := by
  rw [notices, if_neg (by simp [hc])]

/-- The notices of the first ticks: a stretch is open where the last update converged. -/
theorem notices_words (h : History) (n : Nat) :
    (List.range n).flatMap h.notices ∈
      if h.convergedBefore n then regressions * waitings else regressions := by
  -- A stretch opens with a waiting notice, however long its window.
  induction n with
  | zero => exact Language.nil_mem_kstar _
  | succ n ih =>
    rw [List.range_succ, List.flatMap_append, List.flatMap_singleton]
    show _ ∈ if h.converged n then _ else _
    cases hc : h.converged n with
    | true =>
      cases hb : h.convergedBefore n with
      | true =>
        rw [hb] at ih
        obtain ⟨es, hes, fs, hfs, heq⟩ := Language.mem_mul.1 ih
        rw [← heq, notices, if_pos hc, List.append_assoc]
        refine Language.mem_mul.2 ⟨es, hes, _, ?_, rfl⟩
        split
        · exact waitings_snoc hfs _
        · rwa [List.append_nil]
      | false =>
        rw [hb] at ih
        rw [notices_first hc hb]
        exact Language.mem_mul.2 ⟨_, ih, _, waitings_one _, rfl⟩
    | false =>
      rw [notices_lost hc]
      cases hb : h.convergedBefore n with
      | true =>
        rw [hb] at ih
        obtain ⟨es, hes, fs, hfs, heq⟩ := Language.mem_mul.1 ih
        rw [← heq]
        exact regressions_snoc hes hfs
      | false =>
        rw [hb] at ih
        exact (List.append_nil _).symm ▸ ih

/-- The notices of the first ticks are a word, and so they are with the notice that the service
converged behind an update that did. -/
theorem noticeWords_of_range (h : History) (n : Nat) :
    (List.range n).flatMap h.notices ∈ noticeWords ∧ (h.convergedBefore n = true →
      (List.range n).flatMap h.notices ++ [convergedNotice] ∈ noticeWords) := by
  have hwords := h.notices_words n
  cases hb : h.convergedBefore n with
  | true =>
    rw [hb] at hwords
    obtain ⟨es, hes, fs, hfs, heq⟩ := Language.mem_mul.1 hwords
    rw [← heq]
    refine ⟨Language.mem_mul.2 ⟨es, hes, fs, .inl (.inr hfs), rfl⟩, fun _ => ?_⟩
    rw [List.append_assoc]
    exact Language.mem_mul.2 ⟨es, hes, _, .inr (Language.mem_mul.2 ⟨fs, hfs, _, rfl, rfl⟩), rfl⟩
  | false =>
    rw [hb] at hwords
    refine ⟨?_, nofun⟩
    exact Language.mem_mul.2 ⟨_, hwords, [], .inl (.inl rfl), List.append_nil _⟩

theorem updated_mono (hjk : j ≤ k) : h.updated j ≤ h.updated k := by
  rcases Nat.lt_or_eq_of_le hjk with hlt | rfl
  · have hle := h.updated_le_begins hlt
    have hread : h.begins k ≤ h.updated k := by
      simp only [updated, read]
      omega
    omega
  · exact Nat.le_refl _

/-- A tick without an outcome has not found the service stable. -/
theorem not_held (h : History) (hx : h.outcome? k = none) : ¬ h.Held k := by
  intro hheld
  unfold outcome? at hx
  rw [if_pos hheld] at hx
  split at hx
  · cases hx
  · split at hx <;> cases hx

/-- What tick `k` tells of the stretch that began with tick `j`. One line tells how long to wait,
but where the answers of the tick have outlasted the window, and then the tick is not the first one.
Of a window that is counted in a word, the line tells the seconds that are left; so the first tick
tells the whole window, and while the window stays the same, the numbers do not increase. -/
structure Countdown (h : History) (j k : Nat) : Prop where
  begun : j ≤ k
  stretch : h.Stretch j (k + 1)
  told : (h.updated k - h.updated j ≤ h.window k ∧
      ∃ seconds, h.notices k = [countdownLine seconds]) ∨
    (j < k ∧ h.window k < h.updated k - h.updated j ∧
      h.read k - h.updated j < h.window k ∧ h.notices k = [])
  number : h.window k / second + 1 < UInt64.size → h.updated k - h.updated j ≤ h.window k →
    h.notices k = [countdownLine ((h.window k - (h.updated k - h.updated j)) / second + 1)]
  first : h.window k / second + 1 < UInt64.size → j = k →
    h.notices k = [countdownLine (h.window k / second + 1)]
  falls : ∀ i, j ≤ i → i ≤ k → h.window i = h.window k →
    (h.window k - (h.updated k - h.updated j)) / second + 1 ≤
      (h.window i - (h.updated i - h.updated j)) / second + 1

/-- Where the countdown is not told, the answers behind the read of the service took too long. -/
theorem outlasted (hs : h.Stretch j (k + 1)) (hjk : j ≤ k) (hx : ¬ h.Held k)
    (he : h.window k < h.updated k - h.updated j) :
    j < k ∧ h.read k - h.updated j < h.window k := by
  have hlt : j < k := by
    rcases Nat.lt_or_eq_of_le hjk with hlt | rfl
    · exact hlt
    · omega
  have hopen : h.Stretch j k := ⟨hs.1, fun i hi => hs.2 i (by omega)⟩
  have hread : h.read k < h.updated j + h.window k := by
    by_contra hheld
    exact hx ⟨j, hlt, hopen, by omega⟩
  have hbegin := h.updated_le_begins hlt
  have hlate : h.begins k ≤ h.read k := Nat.le_add_right ..
  exact ⟨hlt, by omega⟩

theorem countdown (hc : h.converged k = true) (hx : ¬ h.Held k) : ∃ j, h.Countdown j k := by
  have hs := onset_stretch hc
  have hle := h.onset_le k
  have htold : h.updated k - h.updated (h.onset k) ≤ h.window k →
      h.notices k = [waitingNotice (h.window k - (h.updated k - h.updated (h.onset k)))] := by
    intro he
    rw [notices, if_pos hc, elapsed, if_pos he]
  refine ⟨h.onset k, hle, hs, ?_, fun hword he => ?_, fun hword hfirst => ?_,
    fun i _ hik hwindow => ?_⟩
  · by_cases he : h.updated k - h.updated (h.onset k) ≤ h.window k
    · exact .inl ⟨he, _, htold he⟩
    · obtain ⟨hlt, hread⟩ := outlasted hs hle hx (by omega)
      refine .inr ⟨hlt, by omega, hread, ?_⟩
      rw [notices, if_pos hc, elapsed, if_neg he]
  · -- What is left of a window is counted in a word if the whole window is.
    have hless := Nat.div_le_div_right (c := second)
      (Nat.sub_le (h.window k) (h.updated k - h.updated (h.onset k)))
    rw [htold he, waitingNotice_eq (by omega)]
  · rw [hfirst] at hs
    rw [notices_first hc hs.1, waitingNotice_eq hword]
  · have hmono := h.updated_mono hik
    rw [hwindow]
    exact Nat.succ_le_succ (Nat.div_le_div_right (by omega))

end History

end Rollout.Session
