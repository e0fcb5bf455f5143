import Telemetry.Operation.Synchronization
import Telemetry.Yaml.Writer

/-!
# Experiments

* `Experiments.list`, `Experiments.raw`: summaries, and an experiment as it is stored.
* `Experiments.complete`: an experiment with every slot joined to its sensor.
* `Experiments.insert`, `Experiments.update`: the document is written first; then the broker is
  brought up to date.
* `Experiments.gatewayConfiguration`: what the gateway has to know.
-/

namespace Telemetry

/-- An experiment that was stored, and what came of the sync if there was one. -/
structure StoredExperiment where
  id : String
  sync : Option Sync.Report

namespace Experiments

/-- A summary of an experiment: its members without the devices, and its id under the key `id`. -/
def summary (d : Document) : Document :=
  let rest := (d.erase "devices").erase idKey
  match d.get? idKey with
  | some id => rest.insert "id" id
  | none => rest

/-- Summaries of all experiments. -/
def list : Operation (List Document) :=
  return (← Operation.select .all Collection.experiments).map summary

/-- An experiment, as it is stored. -/
def raw (id : String) : Operation Document :=
  Operation.find id Collection.experiments "experiment"

/-- The sensor document of a slot. -/
def sensorOf (slot : DeviceSlot) : Operation Document :=
  Operation.find slot.sensorId Collection.sensors "sensor"

/-! ## The complete experiment -/

/-- A slot joined with its sensor. -/
def joinSlot (root experiment : String) (index : Nat) (slot : DeviceSlot) :
    Operation CompleteDevice := do
  let sensor ← sensorOf slot
  let record ← Operation.ofExcept (slot.sensorRecord sensor)
  Operation.logAll (slot.notices record)
  return slot.joinRecord index experiment root record

/-- Slots joined with their sensors, from a place on. -/
def joinSlots (root experiment : String) (index : Nat) :
    List DeviceSlot → Operation (List CompleteDevice)
  | [] => pure []
  | slot :: slots => do
    let device ← joinSlot root experiment index slot
    return device :: (← joinSlots root experiment (index + 1) slots)

/-- All slots were joined. -/
def joined (id : String) (devices : Nat) : LogEvent where
  level := .debug
  target := .experiments
  message := "Experiment joined"
  values := [LogValue.category "experiments", ("id", .plain id), ("devices", .number devices)]

/-- An experiment with every slot joined to its sensor. Topics start at `root`. -/
def complete (root id : String) : Operation CompleteExperiment := do
  let record ← Operation.ofExcept (ExperimentRecord.ofDocument (← raw id))
  let experiment := record.id.getD id
  let devices ← joinSlots root experiment 0 record.devices
  Operation.log (joined experiment devices.length)
  return ⟨experiment, record.description, devices⟩

/-! ## Changes -/

/-- An experiment is stored, and some of its routes are not written. -/
def incomplete (id : String) (failed : List String) : LogEvent where
  level := .warn
  target := .experiments
  message := "Experiment stored but broker sync is incomplete"
  values := [LogValue.category "experiments", ("id", .plain id), ("failed", .names failed)]

/-- Bring the broker up to date with a stored experiment, if that is wanted. -/
def syncStored (root : String) (options : Option SyncOptions) (id : String) :
    Operation (Option Sync.Report) :=
  match options with
  | none => pure none
  | some o => do
    let report ← Synchronization.run o (← complete root id)
    if !report.isComplete then Operation.log (incomplete id report.failed)
    return some report

/-- An experiment was stored. -/
def stored (id : String) : LogEvent where
  level := .info
  target := .experiments
  message := "Experiment stored"
  values := [LogValue.category "experiments", ("id", .plain id)]

/-- Store a new experiment, and then bring the broker up to date. -/
def insert (root : String) (options : Option SyncOptions) (d : Document) :
    Operation StoredExperiment := do
  let _ ← Operation.ofExcept (ExperimentRecord.ofDocument d)
  let id ← Operation.insert d Collection.experiments
  Operation.log (stored id)
  return ⟨id, ← syncStored root options id⟩

/-- An experiment was replaced. -/
def replaced (id : String) : LogEvent where
  level := .info
  target := .experiments
  message := "Experiment replaced"
  values := [LogValue.category "experiments", ("id", .plain id)]

/-- Replace an experiment, and then bring the broker up to date; it is an error if nothing
changes. -/
def update (root : String) (options : Option SyncOptions) (id : String) (d : Document) :
    Operation StoredExperiment := do
  let _ ← Operation.ofExcept (ExperimentRecord.ofDocument d)
  let x ← Operation.ofExcept (ObjectId.parseId id)
  if ← Operation.replace x d Collection.experiments then
    Operation.log (replaced id)
    return ⟨id, ← syncStored root options id⟩
  else throw (.notModified ("experiment " ++ id))

/-! ## The configuration of the gateway -/

/-- The first service of a uuid. -/
def serviceOf (services : List Json) (uuid : String) : Option Json :=
  services.find? fun s => (s.get? "uuid").bind Json.text? == some uuid

/-- What the gateway has to know of a sensor: its document without the id, and of its services the
enabled ones, in enabled order. -/
def gatewayDevice (slot : DeviceSlot) (sensor : Document) : Document :=
  let services := ((sensor.get? "services").bind Json.items?).getD []
  (sensor.erase idKey).insert "services"
    (.list (slot.enabledServices.filterMap (serviceOf services)))

/-- What the gateway has to know of slots, from a place on. -/
def gatewayDevices (index : Nat) : List DeviceSlot → Operation (List (String × Json))
  | [] => pure []
  | slot :: slots => do
    let device := gatewayDevice slot (← sensorOf slot)
    return (slotKey index, .object device) :: (← gatewayDevices (index + 1) slots)

/-- What the gateway has to know of an experiment, as YAML text. -/
def gatewayConfiguration (id : String) : Operation String := do
  let record ← Operation.ofExcept (ExperimentRecord.ofDocument (← raw id))
  let devices ← gatewayDevices 0 record.devices
  return Yaml.write [("devices", .object (Entries.ofList devices))]

end Experiments

end Telemetry
