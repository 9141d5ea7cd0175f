import Rollout.Engine.TaskFilter
import Rollout.Proofs.Json.Spelling
import Rollout.Proofs.Json.Value

/-!
The text of a task filter. It is an object that says what the filter is, and nothing else, whatever
characters the name of the service has; so filters with one text are equal
(`TaskFilter.query_reads`).
-/

namespace Rollout.TaskFilter

open Json

/-- The members of the object that stands for a filter. -/
def members (f : TaskFilter) : List (String × Value) :=
  (if f.upToDate then [("_up-to-date", .list [.text "true"])] else [])
    ++ [("service", .list [.text f.service])]

theorem members_injective {f g : TaskFilter} (h : f.members = g.members) : f = g := by
  obtain ⟨service, upToDate⟩ := f
  obtain ⟨service', upToDate'⟩ := g
  cases upToDate <;> cases upToDate' <;> simp_all [members]

/-- A list of one text is read as that, whatever characters the text has. -/
theorem takes_texts (key s : String) : ∃ text,
    Print.member key (Print.list Print.text [s]) = Print.member key text ∧
      Value.Takes 1 text (.list [.text s]) := by
  have hopens : ∀ x ∈ [s], ∃ c cs, Print.text x = c :: cs ∧ opensValue c = true :=
    fun _ _ => ⟨'"', _, rfl, by decide⟩
  exact ⟨_, rfl, Value.takes_list hopens fun x _ => Value.takes_text x⟩

theorem read_query (f : TaskFilter) : Value.read f.query = .ok (.object f.members) := by
  have hservice := takes_texts "service" f.service
  have hupToDate := takes_texts "_up-to-date" "true"
  have hshows : Value.Shows 1
      ((if f.upToDate then [Print.member "_up-to-date" (Print.list Print.text ["true"])] else [])
        ++ [Print.member "service" (Print.list Print.text [f.service])]) f.members := by
    unfold members
    split
    · exact .cons hupToDate (.cons hservice .nil)
    · exact .cons hservice .nil
  exact (Value.takes_object hshows).run (by decide)

theorem spelled_query (f : TaskFilter) : Spelled (Text.ofString f.query) := by
  have hlist : ∀ s, Spelled ((Print.list Print.text [s]).map some) :=
    fun s => spelled_list fun x _ => spelled_text x
  rw [query, Text.ofString, String.toList_ofList, print]
  split
  · refine @spelled_written [("_up-to-date", Print.list Print.text ["true"]),
      ("service", Print.list Print.text [f.service])] ?_
    simp only [List.mem_cons, List.not_mem_nil, or_false, forall_eq_or_imp, forall_eq]
    exact ⟨hlist "true", hlist f.service⟩
  · refine @spelled_written [("service", Print.list Print.text [f.service])] ?_
    exact List.forall_mem_singleton.2 (hlist f.service)

/-- The text of a filter is JSON by its grammar. It is an object with the name of the service as the
one item of the list `service`, with a list `_up-to-date` of the one item `true` exactly if the
filter asks for it, and with no other member. Filters with the same text are equal. -/
theorem query_reads (f : TaskFilter) :
    Spelled (Text.ofString f.query) ∧
    Value.read f.query = .ok (.object
      ((if f.upToDate then [("_up-to-date", .list [.text "true"])] else [])
        ++ [("service", .list [.text f.service])])) ∧
    ∀ g : TaskFilter, g.query = f.query → g = f := by
  refine ⟨spelled_query f, read_query f, fun g hquery => members_injective ?_⟩
  have hread := read_query g
  rw [hquery, read_query f, Except.ok.injEq, Value.object.injEq] at hread
  exact hread.symm

/-- A name that looks like the end of its list and another member stays a name. -/
example : (Value.read (TaskFilter.query ⟨"a\"],\"x\":[\"\\", true⟩)).isOk = true := by
  decide +kernel

end Rollout.TaskFilter
