import Rollout.Proofs.Update.Global
import Rollout.Proofs.Update.Replicated

/-!
The overall line on display. It counts the units of the latest update, unless that update was
quiet: then it is still the line with which the updater settled (`overall_line`).
-/

namespace Rollout

/-- The overall line that is on display after some events. -/
def lastOverall (es : List Event) : Option Event := (es.filter fun e => e.id == overallId).getLast?

theorem lastOverall_snoc (es : List Event) (running units : Nat) (rollback : Bool) :
    lastOverall (es ++ [Update.overall running units rollback]) =
      some (Update.overall running units rollback) := by
  have hid : (Update.overall running units rollback).id = overallId := rfl
  simp [lastOverall, hid]

namespace Update

/-! ## Reading the counts back -/

private theorem isDigit_toDigits (n : Nat) : ∀ c ∈ Nat.toDigits 10 n, c.isDigit = true :=
  fun _ hc => Nat.isDigit_of_mem_toDigits (by decide) (by decide) hc

/-- A numeral ends with its digits where a blank follows. -/
private theorem digits_append_inj {m n : Nat} {x y : List Char}
    (h : Nat.toDigits 10 m ++ ' ' :: x = Nat.toDigits 10 n ++ ' ' :: y) : m = n ∧ x = y := by
  have htake := congrArg (List.takeWhile Char.isDigit) h
  rw [List.takeWhile_append_of_pos (isDigit_toDigits m),
    List.takeWhile_append_of_pos (isDigit_toDigits n),
    List.takeWhile_cons_of_neg (by decide), List.takeWhile_cons_of_neg (by decide),
    List.append_nil, List.append_nil] at htake
  have hmn : m = n := by
    rw [← Nat.ofDigitChars_ten_toDigits (n := m), htake, Nat.ofDigitChars_ten_toDigits]
  subst hmn
  exact ⟨rfl, List.tail_eq_of_cons_eq (List.append_cancel_left h)⟩

/-- The characters of an overall line. -/
private theorem overall_toList (running units : Nat) (rollback : Bool) :
    (overall running units rollback).action.toList =
      (if rollback then "rolling back update: " else "").toList ++
        (Nat.toDigits 10 running ++ ' ' :: ("out of ".toList ++
          (Nat.toDigits 10 units ++ ' ' :: "tasks".toList))) := by
  have hout : " out of ".toList = ' ' :: "out of ".toList := rfl
  have htasks : " tasks".toList = ' ' :: "tasks".toList := rfl
  have htext : ∀ n : Nat, (toString n).toList = Nat.toDigits 10 n := fun _ => Nat.toList_repr
  simp only [overall, Event.act, String.toList_append, hout, htasks, htext, List.append_assoc,
    List.cons_append]

/-- No numeral begins with the word about a rollback. -/
private theorem toDigits_ne_rolling (n : Nat) (x y : List Char) :
    Nat.toDigits 10 n ++ x ≠ "rolling back update: ".toList ++ y := by
  intro h
  obtain ⟨c, cs, hn⟩ := List.exists_cons_of_ne_nil (Nat.toDigits_ne_nil (n := n) (b := 10))
  have hc : c.isDigit = true := isDigit_toDigits n c (by simp [hn])
  have hr : "rolling back update: ".toList = 'r' :: "olling back update: ".toList := rfl
  rw [hn, hr] at h
  rw [(List.cons.inj h).1] at hc
  cases hc

/-- Different counts make different lines. -/
theorem overall_inj {m n units units' : Nat} {rollback rollback' : Bool}
    (h : overall m units rollback = overall n units' rollback') : m = n ∧ units = units' := by
  have htext := congrArg (fun e => e.action.toList) h
  simp only [overall_toList] at htext
  have hcounts : Nat.toDigits 10 m ++ ' ' :: ("out of ".toList ++
      (Nat.toDigits 10 units ++ ' ' :: "tasks".toList)) =
      Nat.toDigits 10 n ++ ' ' :: ("out of ".toList ++
        (Nat.toDigits 10 units' ++ ' ' :: "tasks".toList)) := by
    cases rollback with
    | false =>
      cases rollback' with
      | false => exact htext
      | true => exact (toDigits_ne_rolling _ _ _ htext).elim
    | true =>
      cases rollback' with
      | false => exact (toDigits_ne_rolling _ _ _ htext.symm).elim
      | true => exact List.append_cancel_left htext
  obtain ⟨hm, hrest⟩ := digits_append_inj hcounts
  obtain ⟨hu, -⟩ := digits_append_inj (List.append_cancel_left hrest)
  exact ⟨hm, hu⟩

end Update

/-! ## What an update shows -/

namespace Updater

variable {u : Updater} {service : Service} {view : View} {p : Plan Updater}

theorem target?_of_update (hp : u.update? service view = some p) :
    ∃ target, u.target? service view = some target := by
  cases u with
  | replicated slots =>
    obtain ⟨n, hn, -⟩ := Option.map_eq_some_iff.1 hp
    exact ⟨n, hn⟩
  | global nodes => exact ⟨_, rfl⟩

theorem isQuiet_replicated (slots : Update.Slots) (n : Nat) (view : View) :
    (replicated slots).isQuiet view = (slots.awake n view).settled := by
  rw [Update.Slots.awake_settled, Update.hasRegressed_eq]
  rfl

theorem isQuiet_global (nodes : Update.Nodes) (view : View) :
    (global nodes).isQuiet view =
      (nodes.wake (tasksByNode view.tasks view.active)).settled := by
  rw [Update.Nodes.wake_settled, Update.hasRegressed_eq]
  rfl

/-- A quiet updater shows nothing, and stays settled. -/
theorem update?_quiet (hs : u.settled = true → u.started = true)
    (hp : u.update? service view = some p) (hq : u.isQuiet view = true) :
    p.events = [] ∧ p.final.settled = true := by
  have hstarted := hs (Bool.and_eq_true_iff.1 hq).1
  cases u with
  | replicated slots =>
    obtain ⟨n, -, rfl⟩ := Option.map_eq_some_iff.1 hp
    rw [isQuiet_replicated slots n] at hq
    obtain ⟨hnone, hfinal⟩ := Update.Slots.update_quiet hstarted hq
    exact ⟨by rw [Plan.events_map, Plan.events, hnone]; rfl, hfinal⟩
  | global nodes =>
    cases hp
    rw [isQuiet_global] at hq
    obtain ⟨hnone, hfinal⟩ := Update.Nodes.update_quiet hstarted hq
    exact ⟨by rw [Plan.events_map, Plan.events, hnone]; rfl, hfinal⟩

/-- Any other updater closes with the overall line once it is started. -/
theorem update?_loud {target : Nat} (ht : u.target? service view = some target)
    (hp : u.update? service view = some p) (hq : u.isQuiet view = false)
    (hstarted : p.final.started = true) :
    (∃ es, p.events = es ++ [Update.overall (u.running view) target view.rollback]) ∧
      p.final.settled = (u.running view == target) := by
  cases u with
  | replicated slots =>
    obtain ⟨n, hn, rfl⟩ := Option.map_eq_some_iff.1 hp
    have hnt : n = target := Option.some.inj (hn.symm.trans ht)
    subst hnt
    rw [isQuiet_replicated slots n] at hq
    have hloud := Update.Slots.update_loud hq
    simp only [Update.countRunning_eq] at hloud
    rwa [Plan.events_map]
  | global nodes =>
    cases hp
    cases ht
    rw [isQuiet_global] at hq
    have hloud := Update.Nodes.update_loud hq hstarted
    simp only [Update.countRunning_eq] at hloud
    rw [Plan.events_map, tasks, List.length_map]
    exact hloud

/-- No updater holds a settled state at an event, nor before it is started. -/
theorem update?_held (hs : u.settled = true → u.started = true)
    (hp : u.update? service view = some p) :
    (∀ e ∈ p.emissions, e.held.settled = false) ∧
      (p.final.settled = true → p.final.started = true) := by
  cases u with
  | replicated slots =>
    obtain ⟨n, -, rfl⟩ := Option.map_eq_some_iff.1 hp
    refine ⟨fun e he => ?_, fun _ => Update.Slots.update_started ..⟩
    obtain ⟨e', he', rfl⟩ := List.mem_map.1 he
    exact Update.Slots.update_held hs he'
  | global nodes =>
    cases hp
    refine ⟨fun e he => ?_, Update.Nodes.update_settled hs⟩
    obtain ⟨e', he', rfl⟩ := List.mem_map.1 he
    exact Update.Nodes.update_held hs he'

end Updater

/-- While an updater is settled, the line on display says that all units run. -/
structure Shown.Told (s : Shown) : Prop where
  started : s.updater.settled = true → s.updater.started = true
  line : s.updater.settled = true →
    ∃ n rollback, lastOverall s.events = some (Update.overall n n rollback)

theorem Shown.Told.attempt {s : Shown} (hs : s.Told) (a : Attempt) : (s.attempt a).Told := by
  rcases s.attempt_cases a with ⟨-, hx⟩ | ⟨p, hp, hx | ⟨n, e, -, he, hx⟩⟩
  · rwa [hx]
  · rw [hx]
    obtain ⟨-, hstarted⟩ := Updater.update?_held hs.started hp
    refine ⟨hstarted, fun hset => ?_⟩
    cases hq : s.updater.isQuiet a.view with
    | true =>
      have hold : s.updater.settled = true := (Bool.and_eq_true_iff.1 hq).1
      rw [(Updater.update?_quiet hs.started hp hq).1, List.append_nil]
      exact hs.line hold
    | false =>
      obtain ⟨target, ht⟩ := Updater.target?_of_update hp
      obtain ⟨⟨es, hes⟩, hfinal⟩ := Updater.update?_loud ht hp hq (hstarted hset)
      have hall : s.updater.running a.view = target := by
        rw [hfinal] at hset
        exact beq_iff_eq.1 hset
      rw [hes, ← List.append_assoc, lastOverall_snoc, hall]
      exact ⟨target, a.view.rollback, rfl⟩
  · have hheld := (Updater.update?_held hs.started hp).1 e (List.mem_of_getElem? he)
    rw [hx]
    have hnot : (⟨e.held, s.events ++ p.events.take n⟩ : Shown).updater.settled ≠ true := by
      simp [hheld]
    exact ⟨fun hset => absurd hset hnot, fun hset => absurd hset hnot⟩

theorem told_after {first : Service} {u : Updater} (hu : Updater.ofService? first = some u)
    (as : List Attempt) : (u.after as).Told := by
  have hfresh : u.settled = false := by
    unfold Updater.ofService? at hu
    repeat' split at hu
    all_goals cases hu
    all_goals rfl
  have hnot : (⟨u, []⟩ : Shown).updater.settled ≠ true := by simp [hfresh]
  exact Shown.run_ind ⟨fun hset => absurd hset hnot, fun hset => absurd hset hnot⟩
    (fun s a hs => hs.attempt a) as

/-- After an update by which the updater is started, the overall line on display shows its counts,
or the updater was quiet and the line is the one with which it settled. So the line is current
unless a quiet updater meets other counts. -/
theorem overall_line {first service : Service} {u : Updater} {view : View} {p : Plan Updater}
    (hu : Updater.ofService? first = some u) (as : List Attempt)
    (hp : (u.after as).updater.update? service view = some p) (hstarted : p.final.started = true) :
    let now := (u.after as).updater
    let line := lastOverall ((u.after as).events ++ p.events)
    ∃ target, now.target? service view = some target ∧
      (now.isQuiet view = false →
        line = some (Update.overall (now.running view) target view.rollback)) ∧
      (now.isQuiet view = true → ∃ n rollback, line = some (Update.overall n n rollback) ∧
        lastOverall (u.after as).events = line ∧
        ((∃ shown, line = some (Update.overall (now.running view) target shown)) ↔
          now.running view = n ∧ target = n)) := by
  intro now line
  have htold := told_after hu as
  obtain ⟨target, ht⟩ := Updater.target?_of_update hp
  refine ⟨target, ht, fun hq => ?_, fun hq => ?_⟩
  · obtain ⟨⟨es, hes⟩, -⟩ := Updater.update?_loud ht hp hq hstarted
    simp only [line]
    rw [hes, ← List.append_assoc, lastOverall_snoc]
  · obtain ⟨n, rollback, hn⟩ := htold.line (Bool.and_eq_true_iff.1 hq).1
    have hline : line = lastOverall (u.after as).events := by
      simp only [line]
      rw [(Updater.update?_quiet htold.started hp hq).1, List.append_nil]
    refine ⟨n, rollback, hline.trans hn, hline.symm, ?_⟩
    rw [hline, hn]
    constructor
    · rintro ⟨shown, hshown⟩
      obtain ⟨hr, hu⟩ := Update.overall_inj (Option.some.inj hshown)
      exact ⟨hr.symm, hu.symm⟩
    · rintro ⟨hr, hu⟩
      exact ⟨rollback, by rw [hr, hu]⟩

/-- A settled service that is scaled from two replicas to three still shows that two out of two
run. -/
theorem overall_line_after_scaling :
    let service (n : Nat) : Service := ⟨"web", ⟨"web", .ofReplicas n, none⟩, none⟩
    let task (slot : Nat) : Task := ⟨"t", "web", "a", slot, .running, ⟨.running, "", ""⟩⟩
    let view : View := ⟨[task 1, task 2], ["a"], false⟩
    let now := (Updater.replicated .fresh).after [⟨service 2, view, none⟩]
    Updater.ofService? (service 2) = some (.replicated .fresh) ∧
      ∃ p, now.updater.update? (service 3) view = some p ∧ p.final.started = true ∧
        lastOverall (now.events ++ p.events) = some (Update.overall 2 2 false) ∧
        ¬ ∃ shown, lastOverall (now.events ++ p.events) = some (Update.overall 2 3 shown) := by
  intro service task view now
  have hu : Updater.ofService? (service 2) = some (.replicated .fresh) := rfl
  have hp : now.updater.update? (service 3) view =
      some ((Update.Slots.update ⟨[1, 2], true, true⟩ 3 view).map .replicated) := by
    have hnow : now.updater = .replicated ⟨[1, 2], true, true⟩ := by decide +kernel
    rw [hnow]
    rfl
  have hquiet : now.updater.isQuiet view = true := by decide +kernel
  have hrunning : now.updater.running view = 2 := by decide +kernel
  obtain ⟨target, ht, -, hline⟩ := overall_line hu [⟨service 2, view, none⟩] hp rfl
  obtain ⟨n, rollback, -, hold, hiff⟩ := hline hquiet
  cases (show now.updater.target? (service 3) view = some 3 by decide +kernel).symm.trans ht
  refine ⟨hu, _, hp, rfl, ?_, ?_⟩
  · rw [← hold]
    decide +kernel
  · intro hshown
    rw [hrunning] at hiff
    obtain ⟨h2, h3⟩ := hiff.1 hshown
    omega

end Rollout
