import Telemetry.Proofs.Gateway
import Telemetry.Proofs.Store.Contents

/-!
# What a change of an experiment leaves behind

An experiment is written first, and then the broker is brought up to date.

* `Experiments.Declined`: a call that fails, changes no document and asks nothing of the broker.
* `Experiments.Carried`: a call that puts a document in, asks the broker afterwards only, and tells
  of the sync of the experiment as it is stored then.
* `Experiments.insert_cases`, `Experiments.update_cases`: every call is one or the other.
* `Experiments.changes_carried`: which of the two, and when the collection changes.
* `Experiments.unchanged_update`: a call that puts in what is there already, and does not fail.
-/

namespace Telemetry

variable {σ : Type} {b : Backends σ} {s : DocumentStore × σ}

namespace Experiments

variable {root : String} {options : Option SyncOptions} {d : Document} {x : ObjectId}

/-! ## What follows a write -/

/-- What follows a write: the event that tells of it, and the sync. -/
def following (root : String) (options : Option SyncOptions) (event : LogEvent) (id : String) :
    Operation StoredExperiment := do
  Operation.log event
  return ⟨id, ← syncStored root options id⟩

/-- A report tells of the sync of the routes of an experiment, as a store completes it. Without
routes there is nothing to tell of. -/
def Reported (b : Backends σ) (root : String) (o : SyncOptions) (id : String) (s : DocumentStore)
    (report : Sync.Report) : Prop :=
  ∃ e t, t.1 = s ∧ Operation.result b.answer (complete root id) t = .ok e ∧
    (e.routes o.policy = [] ∧ report = .empty ∨
      e.routes o.policy ≠ [] ∧ ∃ t', t'.1 = s ∧ Operation.result b.answer
        (Operation.sync (Telemetry.sync o.connector (e.routes o.policy))) t' = .ok report)

theorem writesNothing_log (event : LogEvent) :
    OperationStep.WritesNothing (.sync (.log event)) := Operation.writesNothing_sync (.log event)

theorem asksOnly_following (event : LogEvent) (id : String) :
    (following root options event id).run.AsksOnly OperationStep.WritesNothing :=
  Operation.asksOnly_bind (Operation.asksOnly_log writesNothing_log event) fun _ =>
    Operation.asksOnly_bind (asksOnly_syncStored Operation.writesNothing_select
      Operation.writesNothing_sync root options id) fun _ => Operation.asksOnly_pure _

/-- The report of a sync is that of the routes of the experiment. -/
theorem result_run {o : SyncOptions} {e : CompleteExperiment} {report : Sync.Report}
    (h : Operation.result b.answer (Synchronization.run o e) s = .ok report) :
    e.routes o.policy = [] ∧ report = .empty ∨
      e.routes o.policy ≠ [] ∧ ∃ t, t.1 = s.1 ∧ Operation.result b.answer
        (Operation.sync (Telemetry.sync o.connector (e.routes o.policy))) t = .ok report := by
  have hcompile : (Synchronization.compile o e).run.AsksOnly OperationStep.WritesNothing :=
    Operation.asksOnly_bind (Operation.asksOnly_logAll writesNothing_log _) fun _ =>
      Operation.asksOnly_pure _
  obtain ⟨routes, hroutes, h⟩ := Operation.result_bind h
  obtain ⟨_, -, hroutes⟩ := Operation.result_bind hroutes
  obtain rfl : e.routes o.policy = routes := Except.ok.inj hroutes
  by_cases hnone : e.routes o.policy = []
  · rw [if_pos (by simp [hnone])] at h
    obtain ⟨_, -, h⟩ := Operation.result_bind h
    exact .inl ⟨hnone, (Except.ok.inj h).symm⟩
  · rw [if_neg (by simp [hnone])] at h
    obtain ⟨_, -, h⟩ := Operation.result_bind h
    refine .inr ⟨hnone, _, ?_, h⟩
    rw [Operation.after_fst (Operation.asksOnly_log writesNothing_log _),
      Operation.after_fst hcompile]

/-- The report that is returned is that of the experiment as it is stored. -/
theorem result_syncStored {o : SyncOptions} {id : String} {sync : Option Sync.Report}
    (h : Operation.result b.answer (syncStored root (some o) id) s = .ok sync) :
    ∃ report, sync = some report ∧ Reported b root o id s.1 report := by
  have hcomplete := asksOnly_complete Operation.writesNothing_select writesNothing_log root id
  obtain ⟨e, he, h⟩ := Operation.result_bind h
  obtain ⟨report, hreport, h⟩ := Operation.result_bind h
  have hsync : sync = some report := by
    split at h
    · obtain ⟨_, -, h⟩ := Operation.result_bind h
      exact (Except.ok.inj h).symm
    · exact (Except.ok.inj h).symm
  refine ⟨report, hsync, e, s, rfl, he, ?_⟩
  have hrun := result_run hreport
  rwa [Operation.after_fst hcomplete] at hrun

/-! ## Calls that write, and calls that do not -/

/-- A call that fails, changes no document, and asks for nothing but the write. -/
structure Declined (b : Backends σ) (s : DocumentStore × σ) (call : Operation StoredExperiment) :
    Prop where
  contents_eq : ∀ c, (Operation.after b.answer call s).1.contents c = s.1.contents c
  fails : ∃ e, Operation.result b.answer call s = .error e
  unasked : ∀ q ∈ call.run.questions b.answer s, ∃ r, q = .store r

/-- A call that puts a document in. It asks for the write first; nothing that it asks for later, of
the broker or of the store, changes a document. If it succeeds, it tells of the sync of the
experiment as it is stored then; without a sync it succeeds. -/
structure Carried (b : Backends σ) (root : String) (options : Option SyncOptions)
    (s : DocumentStore × σ) (call : Operation StoredExperiment) (id : String) (x : ObjectId)
    (d : Document) : Prop where
  puts : s.1.Puts Collection.experiments x d (Operation.after b.answer call s).1
  writesFirst : ∃ r rest, call.run.questions b.answer s = .store r :: rest ∧
    r.written? = some (Collection.experiments, d) ∧ ∀ q ∈ rest, q.WritesNothing
  unsynced : options = none → Operation.result b.answer call s = .ok ⟨id, none⟩
  synced : ∀ o, options = some o → ∀ stored, Operation.result b.answer call s = .ok stored →
    stored.id = id ∧ ∃ report, stored.sync = some report ∧
      Reported b root o id (Operation.after b.answer call s).1 report

/-- A call is carried out if its write puts the document in. -/
theorem carried_of_write {α : Type} {write : Operation α} {next : α → Operation StoredExperiment}
    {r : StoreRequest} {a : α} {event : LogEvent} {id : String}
    (hresult : Operation.result b.answer write s = .ok a)
    (hasks : write.run.questions b.answer s = [.store r])
    (hr : r.written? = some (Collection.experiments, d))
    (hputs : s.1.Puts Collection.experiments x d (Operation.after b.answer write s).1)
    (hnext : next a = following root options event id) :
    Carried b root options s (write >>= next) id x d := by
  have hlater : (following root options event id).run.AsksOnly OperationStep.WritesNothing :=
    asksOnly_following event id
  have hafter : (Operation.after b.answer (write >>= next) s).1 =
      (Operation.after b.answer write s).1 := by
    rw [Operation.after_bind_of_ok hresult, hnext, Operation.after_fst hlater]
  have hcall : Operation.result b.answer (write >>= next) s =
      Operation.result b.answer (following root options event id)
        (Operation.after b.answer write s) := by
    rw [Operation.result_bind_of_ok hresult, hnext]
  constructor
  case puts => rwa [hafter]
  case writesFirst =>
    refine ⟨r, (following root options event id).run.questions b.answer
      (Operation.after b.answer write s), ?_, hr, hlater.questions _ _⟩
    rw [Operation.questions_bind_of_ok hresult, hasks, hnext, List.singleton_append]
  case unsynced =>
    rintro rfl
    rw [hcall]
    rfl
  case synced =>
    rintro o rfl stored hstored
    rw [hcall] at hstored
    obtain ⟨_, -, hstored⟩ := Operation.result_bind hstored
    obtain ⟨sync, hsync, hstored⟩ := Operation.result_bind hstored
    obtain rfl := Except.ok.inj hstored
    refine ⟨rfl, ?_⟩
    rw [hafter]
    have hreport := result_syncStored hsync
    rwa [Operation.after_fst (Operation.asksOnly_log writesNothing_log event)] at hreport

/-- A call is declined if its write changes nothing and the call goes no further. -/
theorem declined_of_write {α : Type} {write : Operation α} {next : α → Operation StoredExperiment}
    {r : StoreRequest} (hasks : write.run.questions b.answer s = [.store r])
    (hcontents : ∀ c, (Operation.after b.answer write s).1.contents c = s.1.contents c)
    (hresult : (∃ e, Operation.result b.answer write s = .error e) ∨
      ∃ a e, Operation.result b.answer write s = .ok a ∧ next a = throw e) :
    Declined b s (write >>= next) := by
  obtain ⟨e, he⟩ | ⟨a, e, ha, hnext⟩ := hresult
  · refine ⟨?_, ⟨e, Operation.result_bind_of_error he _⟩, ?_⟩
    · rwa [Operation.after_bind_of_error he]
    · rw [Operation.questions_bind_of_error he, hasks]
      simp
  · refine ⟨?_, ⟨e, ?_⟩, ?_⟩
    · rw [Operation.after_bind_of_ok ha, hnext]
      exact hcontents
    · rw [Operation.result_bind_of_ok ha, hnext]
      rfl
    · rw [Operation.questions_bind_of_ok ha, hasks, hnext]
      intro q hq
      obtain rfl | hq := List.mem_cons.mp hq
      · exact ⟨r, rfl⟩
      · cases hq

/-- A call that fails before it asks for anything is declined. -/
theorem declined_throw (b : Backends σ) (s : DocumentStore × σ) (e : Error) :
    Declined b s (throw e) where
  contents_eq _ := rfl
  fails := ⟨e, rfl⟩
  unasked _ hq := nomatch hq

/-! ## Insertions and updates -/

/-- The document is an experiment, and its id is a text that writes one, or there is none; no
document of the collection has this id. -/
structure Insertable (s : DocumentStore) (fresh : ObjectId) (d : Document) : Prop where
  decodes : ∃ record, ExperimentRecord.ofDocument d = .ok record
  unused : ¬ d.Refused (s.ids Collection.experiments) fresh

/-- The document is an experiment, and it can replace the one with this id. -/
structure Updatable (s : DocumentStore) (x : ObjectId) (d : Document) : Prop where
  decodes : ∃ record, ExperimentRecord.ofDocument d = .ok record
  replaceable : s.Replaceable Collection.experiments x d

theorem insert_cases (h : s.1.Orderly) (root : String) (options : Option SyncOptions)
    (d : Document) :
    (¬ Insertable s.1 (b.fresh s.2) d ∧ Declined b s (insert root options d)) ∨
    Insertable s.1 (b.fresh s.2) d ∧ ∃ x : ObjectId,
      d.identified (b.fresh s.2) = .ok (x.toHex, d.withId x.toHex) ∧
      x.toHex ∉ s.1.ids Collection.experiments ∧
      Carried b root options s (insert root options d) x.toHex x d := by
  cases hdecode : ExperimentRecord.ofDocument d with
  | error e =>
    refine .inl ⟨fun hi => ?_, ?_⟩
    · obtain ⟨record, hrecord⟩ := hi.decodes
      cases hdecode.symm.trans hrecord
    · rw [insert, hdecode]
      exact declined_throw b s e
  | ok record =>
    have hcall : insert root options d = (Operation.insert d Collection.experiments >>= fun id =>
        following root options (stored id) id) := by
      rw [insert, hdecode]
      rfl
    have hresult : Operation.result b.answer (Operation.insert d Collection.experiments) s =
      (s.1.perform (b.fresh s.2) (.insert d Collection.experiments)).1.mapError
        StoreError.toError := rfl
    rw [hcall]
    obtain ⟨hrefused, hafter, e, he⟩ | ⟨hunused, x, hx, hnew, hid, hputs⟩ :=
      h.insert_effect (b.fresh s.2) d Collection.experiments
    · rw [he] at hresult
      refine .inl ⟨fun hi => hi.unused hrefused,
        declined_of_write rfl (fun c => congrArg (·.contents c) hafter) (.inl ⟨_, hresult⟩)⟩
    · rw [hid] at hresult
      exact .inr ⟨⟨⟨record, hdecode⟩, hunused⟩, x, hx, hnew,
        carried_of_write hresult rfl rfl hputs rfl⟩

theorem update_cases (h : s.1.Orderly) (root : String) (options : Option SyncOptions)
    (id : String) (d : Document) :
    ((∀ x, ObjectId.parse id = .ok x → ¬ Updatable s.1 x d) ∧
      Declined b s (update root options id d)) ∨
    ∃ x, ObjectId.parse id = .ok x ∧ Updatable s.1 x d ∧
      Carried b root options s (update root options id d) id x d := by
  cases hdecode : ExperimentRecord.ofDocument d with
  | error e =>
    refine .inl ⟨fun x _ hu => ?_, ?_⟩
    · obtain ⟨record, hrecord⟩ := hu.decodes
      cases hdecode.symm.trans hrecord
    · rw [update, hdecode]
      exact declined_throw b s e
  | ok record =>
    cases hx : ObjectId.parse id with
    | error fault =>
      refine .inl ⟨fun _ hparse => (nomatch hparse), ?_⟩
      rw [update, hdecode, ObjectId.parseId, hx]
      exact declined_throw b s _
    | ok x =>
      have hcall : update root options id d =
          (Operation.replace x d Collection.experiments >>= fun changed =>
            if changed then following root options (replaced id) id
            else throw (.notModified ("experiment " ++ id))) := by
        rw [update, hdecode, ObjectId.parseId, hx]
        rfl
      have hresult : Operation.result b.answer (Operation.replace x d Collection.experiments) s =
        ((s.1.perform (b.fresh s.2) (.replace (.byId x) d Collection.experiments)).1.map
          (· != 0)).mapError StoreError.toError := rfl
      rw [hcall]
      obtain ⟨hnot, hcontents, hanswer⟩ | ⟨hyes, hcount, hputs⟩ :=
        h.replace_effect (b.fresh s.2) x d Collection.experiments
      · refine .inl ⟨fun y hy hu => ?_, declined_of_write rfl hcontents ?_⟩
        · obtain rfl : x = y := Except.ok.inj hy
          exact hnot hu.replaceable
        · obtain ⟨e, he⟩ | hzero := hanswer
          · rw [he] at hresult
            exact .inl ⟨_, hresult⟩
          · rw [hzero] at hresult
            exact .inr ⟨_, _, hresult, rfl⟩
      · rw [hcount] at hresult
        exact .inr ⟨x, rfl, ⟨⟨record, hdecode⟩, hyes⟩, carried_of_write hresult rfl rfl hputs rfl⟩

/-- A call leaves the collection of experiments other than it was. -/
def Changes (b : Backends σ) (s : DocumentStore × σ) (call : Operation StoredExperiment) : Prop :=
  (Operation.after b.answer call s).1.contents Collection.experiments ≠
    s.1.contents Collection.experiments

theorem Carried.changes_iff {call : Operation StoredExperiment} {id : String}
    (h : Carried b root options s call id x d) (hs : s.1.Orderly) : Changes b s call ↔
      (s.1.contents Collection.experiments).get? x.toHex ≠ some (s.1.kept (d.withId x.toHex)) :=
  not_congr (h.puts.contents_eq_iff hs)

theorem Declined.not_changes {call : Operation StoredExperiment} (h : Declined b s call) :
    ¬ Changes b s call :=
  not_not_intro (h.contents_eq _)

theorem insert_changes_iff (h : s.1.Orderly) (root : String) (options : Option SyncOptions)
    (d : Document) : Changes b s (insert root options d) ↔ Insertable s.1 (b.fresh s.2) d := by
  obtain ⟨hnot, hdeclined⟩ | ⟨hyes, x, -, hnew, hcarried⟩ := insert_cases h root options d
  · exact iff_of_false hdeclined.not_changes hnot
  · refine iff_of_true ((hcarried.changes_iff h).mpr fun hthere => hnew ?_) hyes
    rw [h.ids_eq]
    exact List.mem_map_of_mem (f := Prod.fst) (Entries.mem_of_get? hthere)

theorem update_changes_iff (h : s.1.Orderly) (root : String) (options : Option SyncOptions)
    (id : String) (d : Document) : Changes b s (update root options id d) ↔
      ∃ x, ObjectId.parse id = .ok x ∧ Updatable s.1 x d ∧
        (s.1.contents Collection.experiments).get? x.toHex ≠
          some (s.1.kept (d.withId x.toHex)) := by
  obtain ⟨hnot, hdeclined⟩ | ⟨x, hx, hyes, hcarried⟩ := update_cases h root options id d
  · exact iff_of_false hdeclined.not_changes fun ⟨x, hx, hyes, _⟩ => hnot x hx hyes
  · rw [hcarried.changes_iff h]
    refine ⟨fun hne => ⟨x, hx, hyes, hne⟩, ?_⟩
    rintro ⟨y, hy, -, hne⟩
    obtain rfl : x = y := Except.ok.inj (hx.symm.trans hy)
    exact hne

/-- In every state that changes of regular documents lead to, and whatever the broker does:

* An insertion is carried out, under the id that the document brings or under the fresh one, if the
  document can be inserted. Otherwise it is declined. The collection changes exactly if it can.
* An update is carried out if the document can replace the one with the id. Otherwise it is
  declined. The collection changes exactly if it can and what it puts in is not there already.
* In memory, what it puts in is never there already, and a document can replace another exactly if
  they differ. -/
theorem changes_carried (h : Attained b s) (hd : d.Regular) (root : String)
    (options : Option SyncOptions) :
    (Insertable s.1 (b.fresh s.2) d → ∃ x : ObjectId,
      d.identified (b.fresh s.2) = .ok (x.toHex, d.withId x.toHex) ∧
      Carried b root options s (insert root options d) x.toHex x d) ∧
    (¬ Insertable s.1 (b.fresh s.2) d → Declined b s (insert root options d)) ∧
    (Changes b s (insert root options d) ↔ Insertable s.1 (b.fresh s.2) d) ∧
    ∀ id,
      (∀ x, ObjectId.parse id = .ok x → Updatable s.1 x d →
        Carried b root options s (update root options id d) id x d) ∧
      ((∀ x, ObjectId.parse id = .ok x → ¬ Updatable s.1 x d) →
        Declined b s (update root options id d)) ∧
      (Changes b s (update root options id d) ↔
        ∃ x, ObjectId.parse id = .ok x ∧ Updatable s.1 x d ∧
          (s.1.contents Collection.experiments).get? x.toHex ≠
            some (s.1.kept (d.withId x.toHex))) ∧
      ∀ m, s.1 = .memory m → (Changes b s (update root options id d) ↔
        ∃ x, ObjectId.parse id = .ok x ∧ (∃ r, ExperimentRecord.ofDocument d = .ok r) ∧
          ∃ d₀, s.1.select (.byId x) Collection.experiments = .ok [d₀] ∧
            d₀.same (d.withId x.toHex) = false) := by
  have hs := h.orderly
  refine ⟨fun hi => ?_, fun hi => ?_, insert_changes_iff hs root options d,
    fun id => ⟨fun x hx hu => ?_, fun hnot => ?_, update_changes_iff hs root options id d, ?_⟩⟩
  · obtain ⟨hnot, -⟩ | ⟨-, x, hx, -, hcarried⟩ := insert_cases (b := b) hs root options d
    · exact absurd hi hnot
    · exact ⟨x, hx, hcarried⟩
  · obtain ⟨-, hdeclined⟩ | ⟨hyes, -⟩ := insert_cases (b := b) hs root options d
    · exact hdeclined
    · exact absurd hyes hi
  · obtain ⟨hnot, -⟩ | ⟨y, hy, -, hcarried⟩ := update_cases (b := b) hs root options id d
    · exact absurd hu (hnot x hx)
    · obtain rfl : x = y := Except.ok.inj (hx.symm.trans hy)
      exact hcarried
  · obtain ⟨-, hdeclined⟩ | ⟨x, hx, hyes, -⟩ := update_cases (b := b) hs root options id d
    · exact hdeclined
    · exact absurd hyes (hnot x hx)
  · intro m hm
    rw [update_changes_iff hs]
    rw [hm] at hs ⊢
    constructor
    · rintro ⟨x, hx, hu, -⟩
      exact ⟨x, hx, hu.decodes, hu.replaceable.differs⟩
    · rintro ⟨x, hx, hdecodes, hdiffers⟩
      have hreplaceable := DocumentStore.replaceable_memory_iff.mpr hdiffers
      exact ⟨x, hx, ⟨hdecodes, hreplaceable⟩, hreplaceable.contents_ne hs hd⟩

/-! ## Two experiments -/

/-- A store in memory into which a sensor was put. -/
def equipped : DocumentStore × Unit :=
  Operation.after Dashboard.quiet.answer (Change.insertSensor Dashboard.hygrometer).operation
    (.memory [], ())

/-- An experiment is put in, and then the routes of its sensor are written. -/
theorem changes_carried_greenhouse :
    Attained Dashboard.quiet equipped ∧ Dashboard.greenhouse.Regular ∧
    Carried Dashboard.quiet "qiot" (some ⟨.standard, "influx"⟩) equipped
      (insert "qiot" (some ⟨.standard, "influx"⟩) Dashboard.greenhouse) experimentId.toHex
      experimentId Dashboard.greenhouse ∧
    Changes Dashboard.quiet equipped
      (insert "qiot" (some ⟨.standard, "influx"⟩) Dashboard.greenhouse) ∧
    ∃ report, report.succeeded = ["hy_humidity"] ∧
      Operation.result Dashboard.quiet.answer
        (insert "qiot" (some ⟨.standard, "influx"⟩) Dashboard.greenhouse) equipped =
          .ok ⟨experimentId.toHex, some report⟩ ∧
      Reported Dashboard.quiet "qiot" ⟨.standard, "influx"⟩ experimentId.toHex
        (Operation.after Dashboard.quiet.answer
          (insert "qiot" (some ⟨.standard, "influx"⟩) Dashboard.greenhouse) equipped).1 report := by
  have hattained : Attained Dashboard.quiet equipped :=
    .change (.insertSensor Dashboard.hygrometer) (.memory ()) (by decide +kernel)
  have hregular : Dashboard.greenhouse.Regular := by decide +kernel
  have hidentified : Dashboard.greenhouse.identified (Dashboard.quiet.fresh equipped.2) =
      .ok (experimentId.toHex, Dashboard.greenhouse.withId experimentId.toHex) := by
    decide +kernel
  have hcomputed : (Operation.result Dashboard.quiet.answer
      (insert "qiot" (some ⟨.standard, "influx"⟩) Dashboard.greenhouse) equipped).map
        (fun stored => stored.sync.map (·.succeeded)) = .ok (some ["hy_humidity"]) := by
    decide +kernel
  obtain ⟨hcarried, hdeclined, hchanges, -⟩ :=
    changes_carried hattained hregular "qiot" (some ⟨.standard, "influx"⟩)
  obtain ⟨stored, hstored, hsucceeded⟩ := map_eq_ok_iff.mp hcomputed
  have hinsertable : Insertable equipped.1 (Dashboard.quiet.fresh equipped.2)
      Dashboard.greenhouse := by
    by_contra hnot
    obtain ⟨e, he⟩ := (hdeclined hnot).fails
    cases he.symm.trans hstored
  obtain ⟨x, hx, hcarried⟩ := hcarried hinsertable
  obtain rfl : experimentId = x :=
    ObjectId.toHex_injective (Prod.mk.inj (Except.ok.inj (hidentified.symm.trans hx))).1
  obtain ⟨hid, report, hreport, hreported⟩ := hcarried.synced _ rfl stored hstored
  obtain ⟨id, sync⟩ := stored
  obtain rfl : id = experimentId.toHex := hid
  obtain rfl : sync = some report := hreport
  exact ⟨hattained, hregular, hcarried, hchanges.mpr hinsertable, report,
    Option.some.inj hsucceeded, hstored, hreported⟩

/-- An experiment with a number that is not read back from its own text. -/
def calibration : Document :=
  [("_id", .text "6500000000000000000000aa"), ("gain", .float ⟨4607000810146439952⟩)]

/-- A store with tables into which this experiment was put. -/
def calibrated : DocumentStore × Unit :=
  Operation.after Dashboard.quiet.answer
    (Change.insertExperiment "qiot" none calibration).operation (.keyed [], ())

/-- An experiment is updated with the very document that was inserted. The collection stays as it
was, and the call succeeds. -/
theorem unchanged_update :
    Attained Dashboard.quiet calibrated ∧ calibration.Regular ∧
    ¬ Changes Dashboard.quiet calibrated (update "qiot" none experimentId.toHex calibration) ∧
    ∃ stored, Operation.result Dashboard.quiet.answer
      (update "qiot" none experimentId.toHex calibration) calibrated = .ok stored := by
  have hregular : calibration.Regular := by decide +kernel
  have hattained : Attained Dashboard.quiet calibrated :=
    .change (.insertExperiment "qiot" none calibration) (.keyed ()) hregular
  have hthere : (calibrated.1.contents Collection.experiments).get? experimentId.toHex =
      some (calibrated.1.kept (calibration.withId experimentId.toHex)) := by
    decide +kernel
  have hcomputed : (Operation.result Dashboard.quiet.answer
      (update "qiot" none experimentId.toHex calibration) calibrated).map StoredExperiment.id =
        .ok experimentId.toHex := by
    decide +kernel
  obtain ⟨stored, hstored, -⟩ := map_eq_ok_iff.mp hcomputed
  refine ⟨hattained, hregular, ?_, stored, hstored⟩
  rw [update_changes_iff hattained.orderly]
  rintro ⟨x, hx, -, hne⟩
  obtain rfl : experimentId = x := Except.ok.inj (experimentId.parse_toHex.symm.trans hx)
  exact hne hthere

end Experiments

end Telemetry
