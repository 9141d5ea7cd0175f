import Rollout.Proofs.Json.Record
import Rollout.Snapshot.Wire

/-!
What is read from the wire comes back: a value that any text was read as is written as a text that
is read as the same value (`round_trip`). Written texts are far fewer than those that are read, so
each type has a property of the values that can be read, and those are the ones that come back.
-/

namespace Rollout

open Json

/-! ## Labels -/

/-- No recognized label is kept as an unrecognized one. -/
def TaskState.Proper (s : TaskState) : Prop :=
  ∀ label, s = .unrecognized label → label ∉ lifecycle.map TaskState.label

/-- A label that none of the states has is looked up in vain. -/
theorem find_label_none {known : List σ} {labelOf : σ → String} {label : String} {other : σ}
    (h : ∀ s ∈ known, labelOf s ≠ label) :
    (known.find? fun s => labelOf s == label).getD other = other := by
  have hnone : known.find? (fun s => labelOf s == label) = none := by
    rw [List.find?_eq_none]
    intro s hs hlabel
    exact h s hs (by simpa using hlabel)
  rw [hnone, Option.getD_none]

theorem TaskState.ofLabel_unrecognized {label : String}
    (h : label ∉ lifecycle.map TaskState.label) : ofLabel label = .unrecognized label :=
  find_label_none fun s hs hlabel => h (List.mem_map.2 ⟨s, hs, hlabel⟩)

theorem TaskState.label_ofLabel (label : String) : (ofLabel label).label = label := by
  unfold ofLabel
  cases hfound : lifecycle.find? (fun s => s.label == label) with
  | none => rfl
  | some s => simpa using List.find?_some hfound

theorem TaskState.proper_ofLabel (label : String) : (ofLabel label).Proper := by
  intro other hother hlisted
  have hsame : other = label := by
    have hlabel := label_ofLabel label
    rw [hother] at hlabel
    exact hlabel
  subst hsame
  obtain ⟨s, hs, hslabel⟩ := List.mem_map.1 hlisted
  have hfound : (lifecycle.find? fun s => s.label == other).isSome := by
    rw [List.find?_isSome]
    exact ⟨s, hs, by simpa using hslabel⟩
  obtain ⟨t, ht⟩ := Option.isSome_iff_exists.1 hfound
  have hmem := List.mem_of_find?_eq_some ht
  rw [ofLabel, ht, Option.getD_some] at hother
  subst hother
  revert hmem
  simp [lifecycle]

theorem TaskState.Proper.ofLabel_label {s : TaskState} (h : s.Proper) : ofLabel s.label = s := by
  cases s with
  | unrecognized label => exact ofLabel_unrecognized (h label rfl)
  | _ => decide

theorem UpdateState.ofLabel_label (s : UpdateState) : ofLabel s.label = s := by
  cases s <;> decide

theorem NodeState.ofLabel_label (s : NodeState) : ofLabel s.label = s := by
  cases s <;> decide

/-! ## Values that can be read -/

/-- Numbers fit a word. -/
def Replicated.Fits (r : Replicated) : Prop := ∀ n ∈ r.replicas, n ≤ maxWord

def Mode.Fits (m : Mode) : Prop := ∀ r ∈ m.replicated, r.Fits

/-- Times fit a signed word. -/
def UpdateConfig.Fits (c : UpdateConfig) : Prop := c.monitor < Nat.pow 2 63

def ServiceSpec.Fits (s : ServiceSpec) : Prop := s.mode.Fits ∧ ∀ c ∈ s.updateConfig, c.Fits

def Service.Fits (s : Service) : Prop := s.spec.Fits

def TaskStatus.Fits (s : TaskStatus) : Prop := s.state.Proper

def Task.Fits (t : Task) : Prop := t.slot ≤ maxWord ∧ t.desired.Proper ∧ t.status.Fits

theorem TaskState.reader_yields : TaskState.reader.Yields TaskState.Proper :=
  Reader.Yields.map fun _ _ label _ _ => proper_ofLabel label

theorem Replicated.reader_yields : Replicated.form.reader.Yields Replicated.Fits := by
  refine Record.reader_yields (by simp [form, Fits]) ?_
  simp only [form, List.mem_singleton, forall_eq]
  exact Field.keeps_optional Reader.natural_yields.option "Replicas" fun o _ ho _ => ho

theorem Mode.reader_yields : Mode.form.reader.Yields Mode.Fits := by
  refine Record.reader_yields (by simp [form, blank, Fits]) ?_
  simp only [form, List.mem_cons, List.not_mem_nil, or_false, forall_eq_or_imp, forall_eq]
  refine ⟨?_, ?_⟩
  · exact Field.keeps_optional Replicated.reader_yields.option "Replicated" fun o _ ho _ => ho
  · exact Field.keeps_optional (Reader.any_yields _) "Global" fun _ _ _ hm => hm

theorem UpdateConfig.reader_yields : UpdateConfig.form.reader.Yields UpdateConfig.Fits := by
  have hpos : 0 < Nat.pow 2 63 := by decide
  refine Record.reader_yields hpos ?_
  simp only [form, List.mem_singleton, forall_eq]
  refine Field.keeps_optional Reader.integer_yields "Monitor" ?_
  intro n _ hn _
  have hlt : n < (Nat.pow 2 63 : Nat) := hn
  show n.toNat < Nat.pow 2 63
  omega

theorem ServiceSpec.reader_yields : ServiceSpec.form.reader.Yields ServiceSpec.Fits := by
  refine Record.reader_yields (by simp [form, Mode.blank, Fits, Mode.Fits]) ?_
  simp only [form, List.mem_cons, List.not_mem_nil, or_false, forall_eq_or_imp, forall_eq]
  refine ⟨?_, ?_, ?_⟩
  · exact Field.keeps_optional (Reader.any_yields _) "Name" fun _ _ _ hs => hs
  · exact Field.keeps_optional Mode.reader_yields "Mode" fun _ _ hm hs => ⟨hm, hs.2⟩
  · exact Field.keeps_optional UpdateConfig.reader_yields.option "UpdateConfig"
      fun _ _ hc hs => ⟨hs.1, hc⟩

theorem Service.reader_yields : Service.form.reader.Yields Service.Fits := by
  refine Record.reader_yields
    (by simp [form, ServiceSpec.form, Mode.blank, Fits, ServiceSpec.Fits, Mode.Fits]) ?_
  simp only [form, List.mem_cons, List.not_mem_nil, or_false, forall_eq_or_imp, forall_eq]
  refine ⟨?_, ?_, ?_⟩
  · exact Field.keeps_must (Reader.any_yields _) "ID" fun _ _ _ hs => hs
  · exact Field.keeps_optional ServiceSpec.reader_yields "Spec" fun _ _ hspec _ => hspec
  · exact Field.keeps_optional (Reader.any_yields _) "UpdateStatus" fun _ _ _ hs => hs

theorem TaskStatus.reader_yields : TaskStatus.form.reader.Yields TaskStatus.Fits := by
  refine Record.reader_yields (by simp [form, Fits, TaskState.Proper]) ?_
  simp only [form, List.mem_cons, List.not_mem_nil, or_false, forall_eq_or_imp, forall_eq]
  refine ⟨?_, ?_, ?_⟩
  · exact Field.keeps_must TaskState.reader_yields "State" fun _ _ hstate _ => hstate
  · exact Field.keeps_optional (Reader.any_yields _) "Message" fun _ _ _ hs => hs
  · exact Field.keeps_optional (Reader.any_yields _) "Err" fun _ _ _ hs => hs

theorem Task.reader_yields : Task.form.reader.Yields Task.Fits := by
  refine Record.reader_yields
    (by simp [form, TaskStatus.form, Fits, TaskStatus.Fits, TaskState.Proper]) ?_
  simp only [form, List.mem_cons, List.not_mem_nil, or_false, forall_eq_or_imp, forall_eq]
  refine ⟨?_, ?_, ?_, ?_, ?_, ?_⟩
  · exact Field.keeps_must (Reader.any_yields _) "ID" fun _ _ _ ht => ht
  · exact Field.keeps_optional (Reader.any_yields _) "ServiceID" fun _ _ _ ht => ht
  · exact Field.keeps_optional (Reader.any_yields _) "NodeID" fun _ _ _ ht => ht
  · exact Field.keeps_optional Reader.natural_yields "Slot" fun _ _ hslot ht => ⟨hslot, ht.2⟩
  · exact Field.keeps_must TaskState.reader_yields "DesiredState"
      fun _ _ hstate ht => ⟨ht.1, hstate, ht.2.2⟩
  · exact Field.keeps_must TaskStatus.reader_yields "Status"
      fun _ _ hstatus ht => ⟨ht.1, ht.2.1, hstatus⟩

/-! ## Values that are written -/

theorem TaskState.reads {s : TaskState} (h : s.Proper) : TaskState.reader.Reads 0 s.print s := by
  have hread := (Reader.text_reads s.label).map TaskState.ofLabel
  rwa [h.ofLabel_label] at hread

theorem UpdateState.reads (s : UpdateState) : UpdateState.reader.Reads 0 s.print s :=
  Reader.name_reads (congrArg Except.ok s.ofLabel_label)

theorem NodeState.reads (s : NodeState) : NodeState.reader.Reads 0 s.print s :=
  Reader.name_reads (congrArg Except.ok s.ofLabel_label)

theorem UpdateStatus.reads (s : UpdateStatus) : UpdateStatus.form.reader.Reads 1 s.print s :=
  Record.reader_reads (by decide)
    (.must s.state.reads (.optional (Reader.text_reads s.message) .done))

theorem Replicated.reads {r : Replicated} (h : r.Fits) :
    Replicated.form.reader.Reads 1 r.print r := by
  refine Record.reader_reads (by decide) (.lastOption ?_ rfl)
  exact fun n hn => Reader.natural_reads (h n hn)

theorem globalForm_reads : globalForm.reader.Reads 1 (Print.object []) () :=
  Record.reader_reads (by decide) .done

theorem Mode.reads {m : Mode} (h : m.Fits) : Mode.form.reader.Reads 2 m.print m := by
  have hglobal : ∀ x ∈ (if m.isGlobal then some () else none),
      globalForm.reader.Reads 1 (Print.object []) x := fun _ _ => globalForm_reads
  have hflag : (if m.isGlobal then some () else none).isSome = m.isGlobal := by
    cases m.isGlobal <;> rfl
  have hshows : Record.Shows 1 Mode.form.fields
      (Print.optional "Replicated" Replicated.print m.replicated ++
        Print.optional "Global" (fun () => Print.object []) (if m.isGlobal then some () else none))
      Mode.form.blank { m with isGlobal := (if m.isGlobal then some () else none).isSome } :=
    .option (fun r hr => Replicated.reads (h r hr)) rfl (.lastOption hglobal rfl)
  rw [hflag] at hshows
  exact Record.reader_reads (by decide) hshows

/-- A monitor of so many nanoseconds, of which only those above zero count. -/
theorem UpdateConfig.reads_monitor {n : Int} (hlow : -(Nat.pow 2 63 : Nat) ≤ n)
    (hhigh : n < (Nat.pow 2 63 : Nat)) :
    UpdateConfig.form.reader.Reads 1
      (Print.object [Print.member "Monitor" (Print.integer n)]) ⟨n.toNat⟩ :=
  Record.reader_reads (by decide) (.optional (Reader.integer_reads hlow hhigh) .done)

theorem UpdateConfig.reads {c : UpdateConfig} (h : c.Fits) :
    UpdateConfig.form.reader.Reads 1 c.print c := by
  have hfits : c.monitor < Nat.pow 2 63 := h
  have hlow : -(Nat.pow 2 63 : Nat) ≤ (c.monitor : Int) := by omega
  have hhigh : (c.monitor : Int) < (Nat.pow 2 63 : Nat) := by omega
  have hmonitor := reads_monitor hlow hhigh
  have hword : min c.monitor maxWord = c.monitor :=
    Nat.min_eq_left (Nat.le_trans (Nat.le_of_lt hfits) (by decide))
  rw [Int.toNat_natCast] at hmonitor
  rw [UpdateConfig.print, hword]
  exact hmonitor

theorem ServiceSpec.reads {s : ServiceSpec} (h : s.Fits) :
    ServiceSpec.form.reader.Reads 3 s.print s := by
  obtain ⟨hmode, hconfig⟩ := h
  refine Record.reader_reads (by decide) ?_
  refine .optional ((Reader.text_reads s.name).deeper (by omega)) ?_
  refine .optional (Mode.reads hmode) ?_
  refine .lastOption ?_ rfl
  exact fun c hc => (UpdateConfig.reads (hconfig c hc)).deeper (by omega)

theorem Service.reads {s : Service} (h : s.Fits) : Service.form.reader.Reads 4 s.print s := by
  refine Record.reader_reads (by decide) ?_
  refine .must ((Reader.text_reads s.id).deeper (by omega)) ?_
  refine .optional (ServiceSpec.reads h) ?_
  refine .lastOption ?_ rfl
  exact fun u _ => (UpdateStatus.reads u).deeper (by omega)

theorem TaskStatus.reads {s : TaskStatus} (h : s.Fits) :
    TaskStatus.form.reader.Reads 1 s.print s :=
  Record.reader_reads (by decide)
    (.must (TaskState.reads h) (.optional (Reader.text_reads s.message)
      (.optional (Reader.text_reads s.error) .done)))

theorem Task.reads {t : Task} (h : t.Fits) : Task.form.reader.Reads 2 t.print t := by
  obtain ⟨hslot, hdesired, hstatus⟩ := h
  refine Record.reader_reads (by decide) ?_
  refine .must ((Reader.text_reads t.id).deeper (by omega)) ?_
  refine .optional ((Reader.text_reads t.serviceId).deeper (by omega)) ?_
  refine .optional ((Reader.text_reads t.nodeId).deeper (by omega)) ?_
  refine .optional ((Reader.natural_reads hslot).deeper (by omega)) ?_
  refine .must ((TaskState.reads hdesired).deeper (by omega)) ?_
  refine .must (TaskStatus.reads hstatus) .done

theorem nodeStatusForm_reads (s : NodeState) :
    nodeStatusForm.reader.Reads 1 (Print.object [Print.member "State" s.print]) s :=
  Record.reader_reads (by decide) (.optional s.reads .done)

theorem Node.reads (n : Node) : Node.form.reader.Reads 2 n.print n :=
  Record.reader_reads (by decide)
    (.must ((Reader.text_reads n.id).deeper (by omega))
      (.optional (nodeStatusForm_reads n.state) .done))

/-! ## Whole texts -/

namespace Wire

/-- What a text is read as, written again. -/
def rewrite (w : Wire α) (text : Text) : Except Fault Text :=
  (w.read text).map fun a => Text.ofString (w.write a)

/-- Whatever text a value was read from, the text that is written for it is read as the same
value. So what is written for a text is written for itself. -/
structure RoundTrips (w : Wire α) : Prop where
  value : ∀ text a, w.read text = .ok a → w.read (Text.ofString (w.write a)) = .ok a
  text : ∀ text written, w.rewrite text = .ok written → w.rewrite written = .ok written

variable {w : Wire α} {P : α → Prop} {levels : Nat}

theorem read_write {a : α} (h : w.reader.Reads levels (w.print a) a) (hlevels : levels < 128) :
    w.read (Text.ofString (w.write a)) = .ok a := by
  rw [read, write, Text.ofString, String.toList_ofList]
  exact h.run hlevels

theorem roundTrips (hyields : w.reader.Yields P)
    (hreads : ∀ a, P a → w.reader.Reads levels (w.print a) a) (hlevels : levels < 128) :
    w.RoundTrips := by
  have hvalue : ∀ text a, w.read text = .ok a → w.read (Text.ofString (w.write a)) = .ok a := by
    intro text a hread
    exact read_write (hreads a (hyields.run hread)) hlevels
  refine ⟨hvalue, ?_⟩
  intro text written hwritten
  obtain ⟨a, hread, rfl⟩ := map_ok hwritten
  rw [rewrite, hvalue text a hread]
  rfl

/-- Lists need one level more than their items. -/
theorem roundTrips_listOf (hyields : w.reader.Yields P)
    (hreads : ∀ a, P a → w.reader.Reads levels (w.print a) a) (hlevels : levels < 127) :
    w.listOf.RoundTrips :=
  roundTrips hyields.list (fun _ has => .list fun a ha => hreads a (has a ha)) (by omega)

end Wire

/-! ## States that are not known -/

theorem TaskState.read_unrecognized {text : Text} {label : String}
    (h : Reader.text.run text = .ok label) (hlabel : label ∉ lifecycle.map TaskState.label) :
    Wire.taskState.read text = .ok (.unrecognized label) := by
  have hread : Wire.taskState.read text = (Reader.text.run text).map ofLabel :=
    Reader.run_map Reader.text ofLabel text
  rw [hread, h, Except.map, ofLabel_unrecognized hlabel]

theorem UpdateState.ofLabel_unknown {label : String} (h : ∀ s ≠ unknown, s.label ≠ label) :
    ofLabel label = unknown :=
  find_label_none fun s hs => h s (by rintro rfl; revert hs; decide)

theorem NodeState.ofLabel_unknown {label : String} (h : ∀ s ≠ unknown, s.label ≠ label) :
    ofLabel label = unknown :=
  find_label_none fun s hs => h s (by rintro rfl; revert hs; decide)

theorem UpdateState.read_unknown {text : Text} {label : String}
    (h : (Reader.name .ok).run text = .ok label) (hlabel : ∀ s ≠ unknown, s.label ≠ label) :
    Wire.updateState.read text = .ok .unknown := by
  have hread : Wire.updateState.read text = .ok (ofLabel label) := Reader.run_name h ofLabel
  rw [hread, ofLabel_unknown hlabel]

theorem NodeState.read_unknown {text : Text} {label : String}
    (h : (Reader.name .ok).run text = .ok label) (hlabel : ∀ s ≠ unknown, s.label ≠ label) :
    Wire.nodeState.read text = .ok .unknown := by
  have hread : Wire.nodeState.read text = .ok (ofLabel label) := Reader.run_name h ofLabel
  rw [hread, ofLabel_unknown hlabel]

namespace Wire

/-- Every type that travels comes back from the text that is written for it, however the text that
was read spelled it. Task states keep every label that is not recognized, and no other; update and
node states do not; and a monitor is read to the nanosecond. -/
theorem round_trip :
    (taskState.RoundTrips ∧ updateState.RoundTrips ∧ nodeState.RoundTrips ∧
      updateStatus.RoundTrips ∧ mode.RoundTrips ∧ updateConfig.RoundTrips ∧ service.RoundTrips ∧
      task.RoundTrips ∧ node.RoundTrips ∧ tasks.RoundTrips ∧ nodes.RoundTrips) ∧
    (∀ text s, taskState.read text = .ok s → s.Proper) ∧
    (∀ text t, task.read text = .ok t → t.desired.Proper ∧ t.observed.Proper) ∧
    (∀ text ts, tasks.read text = .ok ts → ∀ t ∈ ts, t.desired.Proper ∧ t.observed.Proper) ∧
    (∀ text label, Reader.text.run text = .ok label →
      label ∉ TaskState.lifecycle.map TaskState.label →
        taskState.read text = .ok (.unrecognized label) ∧
        Reader.text.run (Text.ofString (taskState.write (.unrecognized label))) = .ok label) ∧
    (∀ text label, (Reader.name .ok).run text = .ok label →
      (∀ s ≠ UpdateState.unknown, s.label ≠ label) → updateState.read text = .ok .unknown) ∧
    (∀ text label, (Reader.name .ok).run text = .ok label →
      (∀ s ≠ NodeState.unknown, s.label ≠ label) → nodeState.read text = .ok .unknown) ∧
    (∀ n : Int, -(Nat.pow 2 63 : Nat) ≤ n → n < (Nat.pow 2 63 : Nat) →
      updateConfig.read
        ((Print.object [Print.member "Monitor" (Print.integer n)]).map some) = .ok ⟨n.toNat⟩) := by
  have hproper : ∀ t : Task, t.Fits → t.desired.Proper ∧ t.observed.Proper := fun _ ht => ht.2
  refine ⟨⟨?_, ?_, ?_, ?_, ?_, ?_, ?_, ?_, ?_, ?_, ?_⟩, ?_, ?_, ?_, ?_, ?_, ?_, ?_⟩
  · exact roundTrips TaskState.reader_yields (fun _ hs => TaskState.reads hs) (by decide)
  · exact roundTrips (Reader.any_yields _) (fun s _ => UpdateState.reads s) (by decide)
  · exact roundTrips (Reader.any_yields _) (fun s _ => NodeState.reads s) (by decide)
  · exact roundTrips (Reader.any_yields _) (fun s _ => UpdateStatus.reads s) (by decide)
  · exact roundTrips Mode.reader_yields (fun _ hm => Mode.reads hm) (by decide)
  · exact roundTrips UpdateConfig.reader_yields (fun _ hc => UpdateConfig.reads hc) (by decide)
  · exact roundTrips Service.reader_yields (fun _ hs => Service.reads hs) (by decide)
  · exact roundTrips Task.reader_yields (fun _ ht => Task.reads ht) (by decide)
  · exact roundTrips (Reader.any_yields _) (fun n _ => Node.reads n) (by decide)
  · exact roundTrips_listOf Task.reader_yields (fun _ ht => Task.reads ht) (by decide)
  · exact roundTrips_listOf (Reader.any_yields _) (fun n _ => Node.reads n) (by decide)
  · exact fun text s hread => TaskState.reader_yields.run hread
  · exact fun text t hread => hproper t (Task.reader_yields.run hread)
  · exact fun text ts hread t ht => hproper t (Task.reader_yields.list.run hread t ht)
  · intro text label htext hlabel
    refine ⟨TaskState.read_unrecognized htext hlabel, ?_⟩
    rw [write, Text.ofString, String.toList_ofList]
    exact (Reader.text_reads label).run (by decide)
  · exact fun text label htext hlabel => UpdateState.read_unknown htext hlabel
  · exact fun text label htext hlabel => NodeState.read_unknown htext hlabel
  · intro n hlow hhigh
    exact (UpdateConfig.reads_monitor hlow hhigh).run (by decide)

private def listed : Text :=
  Text.ofString "[ [\"t\\u0031\", \"web\", \"\", 2, \"orphaned\", [\"run\\u006eing\"]] ]"

private def orphan : Task := ⟨"t1", "web", "", 2, .unrecognized "orphaned", ⟨.running, "", ""⟩⟩

/-- Escapes, records as lists and missing members are gone in the text that is written. -/
theorem round_trip_of_orphan :
    tasks.read listed = .ok [orphan] ∧
      tasks.read (Text.ofString (tasks.write [orphan])) = .ok [orphan] := by
  have hlisted : tasks.read listed = .ok [orphan] := by
    have hsome : (tasks.read listed).toOption = some [orphan] := by decide +kernel
    cases hread : tasks.read listed with
    | error e =>
      rw [hread] at hsome
      cases hsome
    | ok ts =>
      rw [hread] at hsome
      cases hsome
      rfl
  obtain ⟨⟨-, -, -, -, -, -, -, -, -, htasks, -⟩, -⟩ := round_trip
  exact ⟨hlisted, htasks.value listed [orphan] hlisted⟩

end Wire
end Rollout
