import Telemetry.Operation.Experiments
import Telemetry.Operation.Sensors
import Telemetry.Proofs.Store.Kept

/-!
# What operations on sensors and experiments ask

* `Experiments.asksOnly_complete`: to complete an experiment, documents are selected and events are
  logged.
* `Change`: an insertion or a replacement of a sensor or an experiment; `Change.asksOnly`: it asks to
  write one document, and only after the document passed the check of its collection.
-/

namespace Telemetry

/-- What the operations on a collection admit to it. -/
structure Admitted (collection : String) (d : Document) : Prop where
  sensor : collection = Collection.sensors → ∃ r, Sensors.record d = .ok r
  experiment : collection = Collection.experiments → ∃ r, ExperimentRecord.ofDocument d = .ok r

theorem admitted_sensors {d : Document} {r : SensorRecord} (h : Sensors.record d = .ok r) :
    Admitted Collection.sensors d where
  sensor _ := ⟨r, h⟩
  experiment hc := absurd hc (by decide)

theorem admitted_experiments {d : Document} {r : ExperimentRecord}
    (h : ExperimentRecord.ofDocument d = .ok r) : Admitted Collection.experiments d where
  sensor hc := absurd hc (by decide)
  experiment _ := ⟨r, h⟩

namespace Experiments

section

variable {P : OperationStep → Prop} (hselect : ∀ f c, P (.store (.select f c)))
  (hlog : ∀ event, P (.sync (.log event)))

include hselect hlog

theorem asksOnly_joinSlots (root experiment : String) (index : Nat) (slots : List DeviceSlot) :
    (joinSlots root experiment index slots).run.AsksOnly P := by
  induction slots generalizing index with
  | nil => exact Operation.asksOnly_pure []
  | cons slot slots ih =>
    refine Operation.asksOnly_bind ?_ fun device =>
      Operation.asksOnly_bind (ih _) fun _ => Operation.asksOnly_pure _
    refine Operation.asksOnly_bind (Operation.asksOnly_find fun x => hselect _ _) fun sensor => ?_
    refine Operation.asksOnly_bind (Operation.asksOnly_ofExcept _) fun record => ?_
    exact Operation.asksOnly_bind (Operation.asksOnly_logAll hlog _) fun _ =>
      Operation.asksOnly_pure _

theorem asksOnly_complete (root id : String) : (complete root id).run.AsksOnly P := by
  refine Operation.asksOnly_bind (Operation.asksOnly_find fun x => hselect _ _) fun d => ?_
  refine Operation.asksOnly_bind (Operation.asksOnly_ofExcept _) fun record => ?_
  refine Operation.asksOnly_bind (asksOnly_joinSlots hselect hlog ..) fun devices => ?_
  exact Operation.asksOnly_bind (Operation.asksOnly_log hlog _) fun _ => Operation.asksOnly_pure _

end

section

variable {P : OperationStep → Prop} (hselect : ∀ f c, P (.store (.select f c)))
  (hsync : ∀ step, P (.sync step))

include hsync

theorem asksOnly_run (o : SyncOptions) (e : CompleteExperiment) :
    (Synchronization.run o e).run.AsksOnly P := by
  have hlog : ∀ event, P (.sync (.log event)) := fun event => hsync (.log event)
  refine Operation.asksOnly_bind ?_ fun routes => ?_
  · exact Operation.asksOnly_bind (Operation.asksOnly_logAll hlog _) fun _ =>
      Operation.asksOnly_pure _
  · split
    · exact Operation.asksOnly_bind (Operation.asksOnly_log hlog _) fun _ =>
        Operation.asksOnly_pure _
    · exact Operation.asksOnly_bind (Operation.asksOnly_log hlog _) fun _ =>
        Operation.asksOnly_sync hsync _

include hselect

theorem asksOnly_syncStored (root : String) (options : Option SyncOptions) (id : String) :
    (syncStored root options id).run.AsksOnly P := by
  have hlog : ∀ event, P (.sync (.log event)) := fun event => hsync (.log event)
  cases options with
  | none => exact Operation.asksOnly_pure none
  | some o =>
    refine Operation.asksOnly_bind (asksOnly_complete hselect hlog root id) fun e => ?_
    refine Operation.asksOnly_bind (asksOnly_run hsync o e) fun report => ?_
    dsimp only
    split
    · exact Operation.asksOnly_bind (Operation.asksOnly_log hlog _) fun _ =>
        Operation.asksOnly_pure _
    · exact Operation.asksOnly_pure _

end

end Experiments

/-! ## Changes -/

/-- A change of the sensors or of the experiments. -/
inductive Change where
  | insertSensor (d : Document)
  | editSensor (id : String) (d : Document)
  | insertExperiment (root : String) (options : Option SyncOptions) (d : Document)
  | updateExperiment (root : String) (options : Option SyncOptions) (id : String) (d : Document)

namespace Change

/-- The document that is to be stored. -/
def document : Change → Document
  | insertSensor d | editSensor _ d | insertExperiment _ _ d | updateExperiment _ _ _ d => d

/-- The collection that is to be changed. -/
def collection : Change → String
  | insertSensor _ | editSensor .. => Collection.sensors
  | insertExperiment .. | updateExperiment .. => Collection.experiments

/-- The operation that carries a change out. -/
def operation : Change → Operation Unit
  | insertSensor d => do let _ ← Sensors.insert d
  | editSensor id d => Sensors.edit id d
  | insertExperiment root options d => do let _ ← Experiments.insert root options d
  | updateExperiment root options id d => do let _ ← Experiments.update root options id d

/-- A change asks to write nothing but its document, and that only if it is admitted. -/
theorem asksOnly {P : OperationStep → Prop} (hselect : ∀ f c, P (.store (.select f c)))
    (hsync : ∀ step, P (.sync step)) (change : Change)
    (hwrite : ∀ r, r.written? = some (change.collection, change.document) →
      Admitted change.collection change.document → P (.store r)) :
    change.operation.run.AsksOnly P := by
  have hlog : ∀ event, P (.sync (.log event)) := fun event => hsync (.log event)
  cases change with
  | insertSensor d =>
    refine Operation.asksOnly_bind ?_ fun _ => Operation.asksOnly_pure ()
    refine Operation.asksOnly_ofExcept_bind fun record h => ?_
    refine Operation.asksOnly_bind
      (Operation.asksOnly_insert (hwrite _ rfl (admitted_sensors h))) fun id => ?_
    exact Operation.asksOnly_bind (Operation.asksOnly_log hlog _) fun _ =>
      Operation.asksOnly_pure _
  | editSensor id d =>
    refine Operation.asksOnly_ofExcept_bind fun record h => ?_
    refine Operation.asksOnly_bind (Operation.asksOnly_ofExcept _) fun x => ?_
    refine Operation.asksOnly_bind
      (Operation.asksOnly_replace (hwrite _ rfl (admitted_sensors h))) fun changed => ?_
    split
    · exact Operation.asksOnly_log hlog _
    · exact Dialogue.asksOnly_pure _
  | insertExperiment root options d =>
    refine Operation.asksOnly_bind ?_ fun _ => Operation.asksOnly_pure ()
    refine Operation.asksOnly_ofExcept_bind fun record h => ?_
    refine Operation.asksOnly_bind
      (Operation.asksOnly_insert (hwrite _ rfl (admitted_experiments h))) fun id => ?_
    refine Operation.asksOnly_bind (Operation.asksOnly_log hlog _) fun _ => ?_
    exact Operation.asksOnly_bind (Experiments.asksOnly_syncStored hselect hsync ..) fun _ =>
      Operation.asksOnly_pure _
  | updateExperiment root options id d =>
    refine Operation.asksOnly_bind ?_ fun _ => Operation.asksOnly_pure ()
    refine Operation.asksOnly_ofExcept_bind fun record h => ?_
    refine Operation.asksOnly_bind (Operation.asksOnly_ofExcept _) fun x => ?_
    refine Operation.asksOnly_bind
      (Operation.asksOnly_replace (hwrite _ rfl (admitted_experiments h))) fun changed => ?_
    split
    · refine Operation.asksOnly_bind (Operation.asksOnly_log hlog _) fun _ => ?_
      exact Operation.asksOnly_bind (Experiments.asksOnly_syncStored hselect hsync ..) fun _ =>
        Operation.asksOnly_pure _
    · exact Dialogue.asksOnly_pure _

end Change

end Telemetry
