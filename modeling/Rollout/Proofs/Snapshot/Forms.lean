import Rollout.Proofs.Json.Orderly
import Rollout.Snapshot.Wire

/-!
The records of the wire. Each reads its fields exactly, has a name of its own for each field and
fields that do not meet (`WireForm.orderly`), so everything that holds of the members of such
records holds of them. Each field that may be left out has a text that gives its default
(`WireForm.default`).
-/

namespace Rollout

open Json

/-- The records that a snapshot is made of, at every level. -/
inductive WireForm : {α : Type} → Record α → Prop
  | service : WireForm Service.form
  | spec : WireForm ServiceSpec.form
  | mode : WireForm Mode.form
  | replicated : WireForm Replicated.form
  | global : WireForm globalForm
  | updateConfig : WireForm UpdateConfig.form
  | updateStatus : WireForm UpdateStatus.form
  | task : WireForm Task.form
  | taskStatus : WireForm TaskStatus.form
  | node : WireForm Node.form
  | nodeStatus : WireForm nodeStatusForm

/-! ## Orderly records -/

theorem TaskState.reader_exact : TaskState.reader.Exact := Reader.text_exact.map _

theorem Replicated.orderly : Replicated.form.Orderly where
  exact := List.forall_mem_singleton.2 (Reader.natural_exact.option.map _)
  keys := by decide
  apart := List.pairwise_singleton _ _

theorem global_orderly : globalForm.Orderly where
  exact := List.forall_mem_nil _
  keys := List.nodup_nil
  apart := .nil

theorem Mode.orderly : Mode.form.Orderly where
  exact := by
    simp only [Record.Exact, form, List.mem_cons, List.not_mem_nil, or_false, forall_eq_or_imp,
      forall_eq]
    exact ⟨(Record.reader_exact Replicated.orderly.exact).option.map _,
      (Record.reader_exact global_orderly.exact).option.map _⟩
  keys := by decide
  apart := List.pairwise_pair.2 (Field.Sets.apart rfl rfl fun _ _ _ => rfl)

theorem UpdateConfig.orderly : UpdateConfig.form.Orderly where
  exact := List.forall_mem_singleton.2 (Reader.integer_exact.map _)
  keys := by decide
  apart := List.pairwise_singleton _ _

theorem ServiceSpec.orderly : ServiceSpec.form.Orderly where
  exact := by
    simp only [Record.Exact, form, List.mem_cons, List.not_mem_nil, or_false, forall_eq_or_imp,
      forall_eq]
    exact ⟨Reader.text_exact.map _, (Record.reader_exact Mode.orderly.exact).map _,
      (Record.reader_exact UpdateConfig.orderly.exact).option.map _⟩
  keys := by decide
  apart := by
    simp only [form, List.pairwise_cons, List.mem_cons, List.not_mem_nil, or_false,
      forall_eq_or_imp, forall_eq, IsEmpty.forall_iff, implies_true, List.Pairwise.nil, and_true]
    refine ⟨⟨?_, ?_⟩, ?_⟩ <;> exact Field.Sets.apart rfl rfl fun _ _ _ => rfl

theorem UpdateStatus.orderly : UpdateStatus.form.Orderly where
  exact := by
    simp only [Record.Exact, form, List.mem_cons, List.not_mem_nil, or_false, forall_eq_or_imp,
      forall_eq]
    exact ⟨(Reader.name_exact _).map _, Reader.text_exact.map _⟩
  keys := by decide
  apart := List.pairwise_pair.2 (Field.Sets.apart rfl rfl fun _ _ _ => rfl)

theorem Service.orderly : Service.form.Orderly where
  exact := by
    simp only [Record.Exact, form, List.mem_cons, List.not_mem_nil, or_false, forall_eq_or_imp,
      forall_eq]
    exact ⟨Reader.text_exact.map _, (Record.reader_exact ServiceSpec.orderly.exact).map _,
      (Record.reader_exact UpdateStatus.orderly.exact).option.map _⟩
  keys := by decide
  apart := by
    simp only [form, List.pairwise_cons, List.mem_cons, List.not_mem_nil, or_false,
      forall_eq_or_imp, forall_eq, IsEmpty.forall_iff, implies_true, List.Pairwise.nil, and_true]
    refine ⟨⟨?_, ?_⟩, ?_⟩ <;> exact Field.Sets.apart rfl rfl fun _ _ _ => rfl

theorem TaskStatus.orderly : TaskStatus.form.Orderly where
  exact := by
    simp only [Record.Exact, form, List.mem_cons, List.not_mem_nil, or_false, forall_eq_or_imp,
      forall_eq]
    exact ⟨TaskState.reader_exact.map _, Reader.text_exact.map _, Reader.text_exact.map _⟩
  keys := by decide
  apart := by
    simp only [form, List.pairwise_cons, List.mem_cons, List.not_mem_nil, or_false,
      forall_eq_or_imp, forall_eq, IsEmpty.forall_iff, implies_true, List.Pairwise.nil, and_true]
    refine ⟨⟨?_, ?_⟩, ?_⟩ <;> exact Field.Sets.apart rfl rfl fun _ _ _ => rfl

theorem Task.orderly : Task.form.Orderly where
  exact := by
    simp only [Record.Exact, form, List.mem_cons, List.not_mem_nil, or_false, forall_eq_or_imp,
      forall_eq]
    exact ⟨Reader.text_exact.map _, Reader.text_exact.map _, Reader.text_exact.map _,
      Reader.natural_exact.map _, TaskState.reader_exact.map _,
      (Record.reader_exact TaskStatus.orderly.exact).map _⟩
  keys := by decide
  apart := by
    simp only [form, List.pairwise_cons, List.mem_cons, List.not_mem_nil, or_false,
      forall_eq_or_imp, forall_eq, IsEmpty.forall_iff, implies_true, List.Pairwise.nil, and_true]
    refine ⟨⟨?_, ?_, ?_, ?_, ?_⟩, ⟨?_, ?_, ?_, ?_⟩, ⟨?_, ?_, ?_⟩, ⟨?_, ?_⟩, ?_⟩ <;>
      exact Field.Sets.apart rfl rfl fun _ _ _ => rfl

theorem nodeStatus_orderly : nodeStatusForm.Orderly where
  exact := List.forall_mem_singleton.2 ((Reader.name_exact _).map _)
  keys := by decide
  apart := List.pairwise_singleton _ _

theorem Node.orderly : Node.form.Orderly where
  exact := by
    simp only [Record.Exact, form, List.mem_cons, List.not_mem_nil, or_false, forall_eq_or_imp,
      forall_eq]
    exact ⟨Reader.text_exact.map _, (Record.reader_exact nodeStatus_orderly.exact).map _⟩
  keys := by decide
  apart := List.pairwise_pair.2 (Field.Sets.apart rfl rfl fun _ _ _ => rfl)

theorem WireForm.orderly {form : Record α} (h : WireForm form) : form.Orderly := by
  cases h with
  | service => exact Service.orderly
  | spec => exact ServiceSpec.orderly
  | mode => exact Mode.orderly
  | replicated => exact Replicated.orderly
  | global => exact global_orderly
  | updateConfig => exact UpdateConfig.orderly
  | updateStatus => exact UpdateStatus.orderly
  | task => exact Task.orderly
  | taskStatus => exact TaskStatus.orderly
  | node => exact Node.orderly
  | nodeStatus => exact nodeStatus_orderly

/-! ## Defaults as texts -/

/-- Some text gives the default of the field. -/
def HasDefault (form : Record α) (f : Json.Field α) : Prop := ∃ v, Spelled v ∧ form.Defaults f v

section Defaults

variable {form : Record α}

theorem text_default {key : String} {set : String → α → α} (h : set "" form.blank = form.blank) :
    HasDefault form (.optional key Reader.text set) :=
  ⟨Text.ofString "\"\"", .text .nil,
    Record.defaults_of_sets rfl (fun _ _ _ _ => rfl) h⟩

theorem spelled_zero : Spelled (Text.ofString "0") :=
  .number (.positive (.parts .zero .none .none))

theorem natural_default {key : String} {set : Nat → α → α} (h : set 0 form.blank = form.blank) :
    HasDefault form (.optional key Reader.natural set) :=
  ⟨Text.ofString "0", spelled_zero, Record.defaults_of_sets rfl (fun _ _ _ _ => rfl) h⟩

theorem integer_default {key : String} {set : Int → α → α} (h : set 0 form.blank = form.blank) :
    HasDefault form (.optional key Reader.integer set) :=
  ⟨Text.ofString "0", spelled_zero, Record.defaults_of_sets rfl (fun _ _ _ _ => rfl) h⟩

theorem option_default {key : String} {read : Reader β} {set : Option β → α → α}
    (h : set none form.blank = form.blank) : HasDefault form (.optional key read.option set) :=
  ⟨Text.ofString "null", .word (by simp),
    Record.defaults_of_sets rfl (fun _ _ _ _ => Reader.option_none rfl) h⟩

theorem nodeState_default {key : String} {set : NodeState → α → α}
    (h : set .unknown form.blank = form.blank) :
    HasDefault form (.optional key NodeState.reader set) :=
  ⟨Text.ofString "\"\"", .text .nil,
    Record.defaults_of_sets rfl (fun _ _ _ _ => rfl) h⟩

theorem record_default {key : String} {inner : Record β} {set : β → α → α}
    (hexact : inner.Exact) (hoptional : ∀ f ∈ inner.fields, f.required = false)
    (h : set inner.blank form.blank = form.blank) :
    HasDefault form (.optional key inner.reader set) :=
  ⟨object .none [], spelled_object .none [],
    Record.defaults_of_sets rfl (fun _ _ _ hw => Record.gives_blank hexact hoptional hw) h⟩

end Defaults

theorem WireForm.default {form : Record α} (h : WireForm form) :
    ∀ f ∈ form.fields, f.required = false → HasDefault form f := by
  have hmust : ∀ {p : Prop}, true = false → p := fun h => nomatch h
  cases h with
  | service =>
    simp only [Service.form, List.mem_cons, List.not_mem_nil, or_false, forall_eq_or_imp, forall_eq]
    exact ⟨hmust, fun _ => record_default ServiceSpec.orderly.exact (by decide) rfl,
      fun _ => option_default rfl⟩
  | spec =>
    simp only [ServiceSpec.form, List.mem_cons, List.not_mem_nil, or_false, forall_eq_or_imp,
      forall_eq]
    exact ⟨fun _ => text_default rfl, fun _ => record_default Mode.orderly.exact (by decide) rfl,
      fun _ => option_default rfl⟩
  | mode =>
    simp only [Mode.form, List.mem_cons, List.not_mem_nil, or_false, forall_eq_or_imp, forall_eq]
    exact ⟨fun _ => option_default rfl, fun _ => option_default rfl⟩
  | replicated => exact List.forall_mem_singleton.2 fun _ => option_default rfl
  | global => exact List.forall_mem_nil _
  | updateConfig => exact List.forall_mem_singleton.2 fun _ => integer_default rfl
  | updateStatus =>
    simp only [UpdateStatus.form, List.mem_cons, List.not_mem_nil, or_false, forall_eq_or_imp,
      forall_eq]
    exact ⟨hmust, fun _ => text_default rfl⟩
  | task =>
    simp only [Task.form, List.mem_cons, List.not_mem_nil, or_false, forall_eq_or_imp, forall_eq]
    exact ⟨hmust, fun _ => text_default rfl, fun _ => text_default rfl,
      fun _ => natural_default rfl, hmust, hmust⟩
  | taskStatus =>
    simp only [TaskStatus.form, List.mem_cons, List.not_mem_nil, or_false, forall_eq_or_imp,
      forall_eq]
    exact ⟨hmust, fun _ => text_default rfl, fun _ => text_default rfl⟩
  | node =>
    simp only [Node.form, List.mem_cons, List.not_mem_nil, or_false, forall_eq_or_imp, forall_eq]
    exact ⟨hmust, fun _ => record_default nodeStatus_orderly.exact (by decide) rfl⟩
  | nodeStatus => exact List.forall_mem_singleton.2 fun _ => nodeState_default rfl

end Rollout
