import Rollout.Output

/-!
What a device takes of texts that are written one after another. One that refuses writes takes those
that it spares, and nothing behind the first that it refuses.
-/

namespace Rollout.Device

variable {d : Device}

theorem writeAll_eq (h : d.refusesWrites = false) (texts : List String) :
    d.writeAll texts = (.ok (), { d with text := d.text ++ String.join texts }) := by
  induction texts generalizing d with
  | nil => simp [writeAll]
  | cons s rest ih =>
    have hwrite : d.write s = (.ok (), { d with text := d.text ++ s }) := by simp [write, h]
    rw [writeAll, hwrite]
    simp only [ih (d := { d with text := d.text ++ s }) h, String.join_cons, String.append_assoc]

theorem writeAll_spared (h : d.refusesWrites = true) {texts : List String}
    (hspared : texts.length ≤ d.spared) :
    d.writeAll texts = (.ok (),
      { d with text := d.text ++ String.join texts, spared := d.spared - texts.length }) := by
  induction texts generalizing d with
  | nil => simp [writeAll]
  | cons s rest ih =>
    rw [List.length_cons] at hspared
    obtain ⟨n, hn⟩ : ∃ n, d.spared = n + 1 := ⟨d.spared - 1, by omega⟩
    have hwrite : d.write s = (.ok (), { d with text := d.text ++ s, spared := n }) := by
      simp [write, h, hn]
    have hrest : rest.length ≤ n := by omega
    rw [writeAll, hwrite]
    simp only [ih (d := { d with text := d.text ++ s, spared := n }) h hrest, String.join_cons,
      String.append_assoc, List.length_cons, hn, Nat.add_sub_add_right]

theorem writeAll_refused (h : d.refusesWrites = true) {texts : List String}
    (hspared : d.spared < texts.length) :
    d.writeAll texts = (.error .writeRefused,
      { d with text := d.text ++ String.join (texts.take d.spared), spared := 0 }) := by
  induction texts generalizing d with
  | nil => cases hspared
  | cons s rest ih =>
    rw [List.length_cons] at hspared
    cases hn : d.spared with
    | zero =>
      have hwrite : d.write s = (.error .writeRefused, d) := by simp [write, h, hn]
      have hsame : { d with spared := 0 } = d := by rw [← hn]
      rw [writeAll, hwrite]
      simp [hsame]
    | succ n =>
      have hwrite : d.write s = (.ok (), { d with text := d.text ++ s, spared := n }) := by
        simp [write, h, hn]
      have hrest : n < rest.length := by omega
      rw [writeAll, hwrite]
      simp only [ih (d := { d with text := d.text ++ s, spared := n }) h hrest, List.take_succ_cons,
        String.join_cons, String.append_assoc]

end Rollout.Device
