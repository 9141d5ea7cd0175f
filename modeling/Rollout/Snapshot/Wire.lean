import Rollout.Json.Printer
import Rollout.Json.Record
import Rollout.Snapshot

/-!
The JSON form of a snapshot. Members that are not modelled are passed over, and absent optional
ones are left out when a value is written.
-/
namespace Rollout

open Json

def TaskState.reader : Reader TaskState := Reader.text.map TaskState.ofLabel

def TaskState.print (s : TaskState) : List Char := Print.text s.label

def UpdateState.label : UpdateState → String
  | .updating => "updating"
  | .paused => "paused"
  | .completed => "completed"
  | .rollbackStarted => "rollback_started"
  | .rollbackPaused => "rollback_paused"
  | .rollbackCompleted => "rollback_completed"
  | .unknown => "unknown"

/-- Any other label stands for a state that is not known. -/
def UpdateState.ofLabel (label : String) : UpdateState :=
  ([.updating, .paused, .completed, .rollbackStarted, .rollbackPaused, .rollbackCompleted].find?
    fun s : UpdateState => s.label == label).getD .unknown

def UpdateState.reader : Reader UpdateState := Reader.name fun s => .ok (.ofLabel s)

def UpdateState.print (s : UpdateState) : List Char := Print.text s.label

def UpdateStatus.form : Record UpdateStatus where
  name := "UpdateStatus"
  fields :=
    [.must "State" UpdateState.reader fun x s => { s with state := x },
     .optional "Message" Reader.text fun x s => { s with message := x }]
  blank := ⟨.unknown, ""⟩

def UpdateStatus.print (s : UpdateStatus) : List Char :=
  Print.object
    [Print.member "State" s.state.print,
     Print.member "Message" (Print.text s.message)]

def Replicated.form : Record Replicated where
  name := "ReplicatedService"
  fields := [.optional "Replicas" Reader.natural.option fun x _ => ⟨x⟩]
  blank := ⟨none⟩

def Replicated.print (r : Replicated) : List Char :=
  Print.object (Print.optional "Replicas" Print.natural r.replicas)

/-- The settings of a service that runs on every node: there are none. -/
def globalForm : Record Unit := ⟨"GlobalService", [], ()⟩

def Mode.form : Record Mode where
  name := "ServiceMode"
  fields :=
    [.optional "Replicated" Replicated.form.reader.option fun x m => { m with replicated := x },
     .optional "Global" globalForm.reader.option fun x m => { m with isGlobal := x.isSome }]
  blank := .blank

def Mode.print (m : Mode) : List Char :=
  Print.object
    (Print.optional "Replicated" Replicated.print m.replicated
      ++ Print.optional "Global" (fun () => Print.object []) (if m.isGlobal then some () else none))

/-- A negative time counts as none. -/
def UpdateConfig.form : Record UpdateConfig where
  name := "UpdateConfig"
  fields := [.optional "Monitor" Reader.integer fun x _ => ⟨x.toNat⟩]
  blank := ⟨0⟩

/-- A time that fits no word is written as the largest one. -/
def UpdateConfig.print (c : UpdateConfig) : List Char :=
  Print.object [Print.member "Monitor" (Print.natural (min c.monitor maxWord))]

def ServiceSpec.form : Record ServiceSpec where
  name := "ServiceSpec"
  fields :=
    [.optional "Name" Reader.text fun x s => { s with name := x },
     .optional "Mode" Mode.form.reader fun x s => { s with mode := x },
     .optional "UpdateConfig" UpdateConfig.form.reader.option fun x s =>
       { s with updateConfig := x }]
  blank := ⟨"", .blank, none⟩

def ServiceSpec.print (s : ServiceSpec) : List Char :=
  Print.object
    (Print.member "Name" (Print.text s.name) :: Print.member "Mode" s.mode.print
      :: Print.optional "UpdateConfig" UpdateConfig.print s.updateConfig)

def Service.form : Record Service where
  name := "Service"
  fields :=
    [.must "ID" Reader.text fun x s => { s with id := x },
     .optional "Spec" ServiceSpec.form.reader fun x s => { s with spec := x },
     .optional "UpdateStatus" UpdateStatus.form.reader.option fun x s =>
       { s with updateStatus := x }]
  blank := ⟨"", ServiceSpec.form.blank, none⟩

def Service.print (s : Service) : List Char :=
  Print.object
    (Print.member "ID" (Print.text s.id) :: Print.member "Spec" s.spec.print
      :: Print.optional "UpdateStatus" UpdateStatus.print s.updateStatus)

def TaskStatus.form : Record TaskStatus where
  name := "TaskStatus"
  fields :=
    [.must "State" TaskState.reader fun x s => { s with state := x },
     .optional "Message" Reader.text fun x s => { s with message := x },
     .optional "Err" Reader.text fun x s => { s with error := x }]
  blank := ⟨.new, "", ""⟩

def TaskStatus.print (s : TaskStatus) : List Char :=
  Print.object
    [Print.member "State" s.state.print,
     Print.member "Message" (Print.text s.message),
     Print.member "Err" (Print.text s.error)]

def Task.form : Record Task where
  name := "Task"
  fields :=
    [.must "ID" Reader.text fun x t => { t with id := x },
     .optional "ServiceID" Reader.text fun x t => { t with serviceId := x },
     .optional "NodeID" Reader.text fun x t => { t with nodeId := x },
     .optional "Slot" Reader.natural fun x t => { t with slot := x },
     .must "DesiredState" TaskState.reader fun x t => { t with desired := x },
     .must "Status" TaskStatus.form.reader fun x t => { t with status := x }]
  blank := ⟨"", "", "", 0, .new, TaskStatus.form.blank⟩

def Task.print (t : Task) : List Char :=
  Print.object
    [Print.member "ID" (Print.text t.id),
     Print.member "ServiceID" (Print.text t.serviceId),
     Print.member "NodeID" (Print.text t.nodeId),
     Print.member "Slot" (Print.natural t.slot),
     Print.member "DesiredState" t.desired.print,
     Print.member "Status" t.status.print]

def NodeState.label : NodeState → String
  | .down => "down"
  | .ready => "ready"
  | .disconnected => "disconnected"
  | .unknown => "unknown"

/-- Any other label stands for a state that is not known. -/
def NodeState.ofLabel (label : String) : NodeState :=
  ([.down, .ready, .disconnected].find? fun s : NodeState => s.label == label).getD .unknown

def NodeState.reader : Reader NodeState := Reader.name fun s => .ok (.ofLabel s)

def NodeState.print (s : NodeState) : List Char := Print.text s.label

/-- The status of a node, of which the state is all that counts. -/
def nodeStatusForm : Record NodeState where
  name := "NodeStatus"
  fields := [.optional "State" NodeState.reader fun x _ => x]
  blank := .unknown

def Node.form : Record Node where
  name := "Node"
  fields :=
    [.must "ID" Reader.text fun x n => { n with id := x },
     .optional "Status" nodeStatusForm.reader fun x n => { n with state := x }]
  blank := ⟨"", .unknown⟩

def Node.print (n : Node) : List Char :=
  Print.object
    [Print.member "ID" (Print.text n.id),
     Print.member "Status" (Print.object [Print.member "State" n.state.print])]

/-- The wire form of a type. -/
structure Wire (α : Type) where
  reader : Reader α
  print : α → List Char

namespace Wire

def taskState : Wire TaskState := ⟨TaskState.reader, TaskState.print⟩
def updateState : Wire UpdateState := ⟨UpdateState.reader, UpdateState.print⟩
def updateStatus : Wire UpdateStatus := ⟨UpdateStatus.form.reader, UpdateStatus.print⟩
def mode : Wire Mode := ⟨Mode.form.reader, Mode.print⟩
def updateConfig : Wire UpdateConfig := ⟨UpdateConfig.form.reader, UpdateConfig.print⟩
def service : Wire Service := ⟨Service.form.reader, Service.print⟩
def task : Wire Task := ⟨Task.form.reader, Task.print⟩
def nodeState : Wire NodeState := ⟨NodeState.reader, NodeState.print⟩
def node : Wire Node := ⟨Node.form.reader, Node.print⟩

def listOf (w : Wire α) : Wire (List α) := ⟨w.reader.list, Print.list w.print⟩

def tasks : Wire (List Task) := task.listOf
def nodes : Wire (List Node) := node.listOf

/-- Reads a whole text. -/
def read (w : Wire α) (text : Text) : Except Fault α := w.reader.run text

def write (w : Wire α) (a : α) : String := String.ofList (w.print a)

end Wire
end Rollout
