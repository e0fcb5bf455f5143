import Telemetry.Operation.Dashboard
import Telemetry.Operation.Sensors
import Telemetry.Proofs.Experiments
import Telemetry.Proofs.Fields
import Telemetry.Proofs.Line
import Telemetry.Proofs.Pool
import Telemetry.Proofs.Sync.Calls

/-!
# What a dashboard reads and what a sync writes

A line is tagged with the id of the stored experiment, which has lowercase digits. A series is asked
for under the id that the caller wrote.

* `Experiments.complete_ok`: a complete experiment carries the id of its document.
* `Dashboard.Issued`: the series that are asked for, in their order or side by side.
* `Dashboard.issued_agrees_iff`: what is asked for is tagged like what is written exactly if the
  caller wrote the id as it is stored.
-/

namespace Telemetry

/-! ## Ids -/

/-- The digits of an id make one item. -/
theorem ObjectId.solid_toHex (x : ObjectId) : Solid x.toHex := by
  have hdigit : ∀ n < 16, isPlain (Nat.digitChar n) = true := by decide
  refine solid_of_forall_isPlain fun c hc => ?_
  rw [toHex, String.toList_ofList] at hc
  obtain ⟨b, -, hc⟩ := List.mem_flatMap.mp hc
  have hb : b.toNat < 256 := b.toNat_lt
  obtain rfl | hc := List.mem_cons.mp hc
  · exact hdigit _ (by omega)
  · obtain rfl := List.mem_singleton.mp hc
    exact hdigit _ (by omega)

theorem ObjectId.toHex_ne_empty (x : ObjectId) : x.toHex ≠ "" := by
  intro h
  have hlen : (x.bytes.flatMap byteDigits).length = 0 := by
    rw [← String.toList_ofList (l := x.bytes.flatMap byteDigits)]
    exact congrArg (fun s : String => s.toList.length) h
  obtain ⟨bytes, hbytes⟩ := x
  cases bytes with
  | nil => cases hbytes
  | cons b bytes => simp [byteDigits] at hlen

/-- An experiment is read under the id of its document. -/
theorem ExperimentRecord.id_ofDocument {d : Document} {r : ExperimentRecord} {id : String}
    (h : ofDocument d = .ok r) (hd : d.get? idKey = some (.text id)) : r.id = some id := by
  have hid : Entries.field? d idKey (Json.decodeOption Json.decodeText) = .ok (some (some id)) := by
    rw [Entries.field?, hd]
    rfl
  unfold ofDocument at h
  cases hm : ofMembers d with
  | error fault => simp [hm] at h
  | ok r' =>
    obtain rfl : r' = r := by simpa [hm] using h
    unfold ofMembers at hm
    simp only [hid, bind, Except.bind, pure, Except.pure] at hm
    split at hm
    · cases hm
    · split at hm
      · cases hm
      · obtain rfl := Except.ok.inj hm
        rfl

/-- A question that is not for a series. -/
def OperationStep.NoSeries (q : OperationStep) : Prop := ∀ s, q ≠ .series s

section

variable {σ : Type} {b : Backends σ} {s : DocumentStore × σ}

namespace Experiments

/-- A complete experiment carries the id of its document, in lowercase digits. -/
theorem complete_ok {root id : String} {e : CompleteExperiment}
    (h : Operation.result b.answer (complete root id) s = .ok e) :
    ∃ x, ObjectId.parse id = .ok x ∧ e.id = x.toHex := by
  obtain ⟨d, hd, h⟩ := Operation.result_bind h
  obtain ⟨record, hrecord, h⟩ := Operation.result_bind h
  obtain ⟨devices, -, h⟩ := Operation.result_bind h
  obtain ⟨_, -, h⟩ := Operation.result_bind h
  obtain rfl := Except.ok.inj h
  obtain ⟨x, hx, hid⟩ := Operation.find_ok hd
  refine ⟨x, hx, ?_⟩
  have hrecord : ExperimentRecord.ofDocument d = .ok record := hrecord
  show record.id.getD id = x.toHex
  rw [ExperimentRecord.id_ofDocument hrecord hid, Option.getD_some]

end Experiments

namespace Dashboard

/-! ## The series that are asked for -/

/-- The series that are asked for, one after the other or side by side. -/
def Issued (b : Backends σ) (settings : Settings) (id service : String) (s : DocumentStore × σ)
    (q : SeriesQuery) : Prop :=
  .series q ∈ (build settings id service).run.questions b.answer s ∨
    ∃ qs bound es p i, Operation.result b.answer (queries settings id service) s = .ok qs ∧
      Pool.Runs bound (pool settings id qs) es p ∧ .asked i (.series q) ∈ es

variable {settings : Settings} {id service : String}

theorem queries_ok {qs : List QueryDescriptor}
    (h : Operation.result b.answer (queries settings id service) s = .ok qs) :
    ∃ e, Operation.result b.answer (Experiments.complete settings.naming.topicRoot id) s =
      .ok e ∧ qs = compileQueries (e.descriptors settings.series.bucket) service := by
  obtain ⟨e, he, h⟩ := Operation.result_bind h
  obtain ⟨_, -, h⟩ := Operation.result_bind h
  exact ⟨e, he, (Except.ok.inj h).symm⟩

theorem asksOnly_queries :
    (queries settings id service).run.AsksOnly OperationStep.NoSeries := by
  refine Operation.asksOnly_bind
    (Experiments.asksOnly_complete (fun f c y => by simp) (fun e y => by simp) ..) fun e => ?_
  exact Operation.asksOnly_bind (Operation.asksOnly_logAll (fun e y => by simp) _) fun _ =>
    Operation.asksOnly_pure _

theorem asksOnly_readSeries (q : QueryDescriptor) : (readSeries settings id q).run.AsksOnly
    fun step => step = .series (q.seriesQuery id settings.series.window) :=
  Operation.asksOnly_bind (Dialogue.asksOnly_question rfl) fun _ => Operation.asksOnly_pure _

theorem asksOnly_readAll (qs : List QueryDescriptor) : (readAll settings id qs).run.AsksOnly
    fun step => ∃ q ∈ qs, step = .series (q.seriesQuery id settings.series.window) := by
  induction qs with
  | nil => exact Operation.asksOnly_pure []
  | cons q qs ih =>
    refine Operation.asksOnly_bind ?_ fun x => Operation.asksOnly_bind ?_ fun _ =>
      Operation.asksOnly_pure _
    · exact (asksOnly_readSeries q).mono fun step h => ⟨q, by simp, h⟩
    · refine ih.mono ?_
      rintro step ⟨q', hq', h⟩
      exact ⟨q', by simp [hq'], h⟩

/-- A series is asked for a query of the dashboard, under the caller's id. -/
theorem Issued.exists_query {q : SeriesQuery} (h : Issued b settings id service s q) :
    ∃ qs, Operation.result b.answer (queries settings id service) s = .ok qs ∧
      ∃ d ∈ qs, q = d.seriesQuery id settings.series.window := by
  obtain h | ⟨qs, bound, es, p, i, hqs, hruns, hasked⟩ := h
  · obtain h | ⟨qs, hqs, h⟩ := Operation.mem_questions_bind h
    · exact absurd rfl (asksOnly_queries.questions _ _ _ h q)
    · obtain h | ⟨_, -, h⟩ := Operation.mem_questions_bind h
      · have hlog := Operation.asksOnly_log (P := OperationStep.NoSeries) (fun e y => by simp)
          (building id service qs.length)
        exact absurd rfl (hlog.questions _ _ _ h q)
      · obtain ⟨d, hd, hq⟩ := (asksOnly_readAll qs).questions _ _ _ h
        exact ⟨qs, hqs, d, hd, OperationStep.series.inj hq⟩
  · have hd : ∀ (j : Nat) (x : OperationDialogue (Except Error DashboardSeries)),
        (qs.map fun d => (readSeries settings id d).run)[j]? = some x →
          x.AsksOnly fun step =>
            ∃ d ∈ qs, step = .series (d.seriesQuery id settings.series.window) := by
      intro j x hx
      obtain ⟨d, hd, rfl⟩ := List.mem_map.mp (List.mem_of_getElem? hx)
      exact (asksOnly_readSeries d).mono fun step hstep => ⟨d, hd, hstep⟩
    obtain ⟨-, d, hd, hq⟩ := hruns.asked (P := fun _ step =>
      ∃ d ∈ qs, step = .series (d.seriesQuery id settings.series.window)) hd hasked
    exact ⟨qs, hqs, d, hd, OperationStep.series.inj hq⟩

/-- A query of an experiment names the measurement of one of its sources. -/
theorem exists_source_of_mem_compileQueries {e : CompleteExperiment} {bucket : String}
    {d : QueryDescriptor} (h : d ∈ compileQueries (e.descriptors bucket) service) :
    ∃ x ∈ e.sources, d.measurement = x.measurement := by
  obtain ⟨d', hd', -, -, rfl⟩ := mem_compileQueries.mp h
  obtain ⟨x, hx, hd'⟩ := List.mem_flatMap.mp hd'
  obtain ⟨f, -, rfl⟩ := List.mem_map.mp hd'
  exact ⟨x, hx, rfl⟩

/-- Without a complete experiment no series is asked for. Otherwise the experiment is stored under
the lowercase form of the caller's id, every line that is written for it is tagged with that form,
and every series is asked for under the id that the caller wrote, in a measurement that is written.
So the series are asked for under the tag of the lines exactly if the caller wrote the stored form,
or if there are none. -/
theorem issued_agrees_iff (b : Backends σ) (settings : Settings) (policy : NamingPolicy)
    (id service : String) (s : DocumentStore × σ) :
    (∀ error, Operation.result b.answer (Experiments.complete settings.naming.topicRoot id) s =
      .error error → ∀ q, ¬ Issued b settings id service s q) ∧
    ∀ e, Operation.result b.answer (Experiments.complete settings.naming.topicRoot id) s = .ok e →
      (∃ x, ObjectId.parse id = .ok x ∧ e.id = x.toHex) ∧
      (∀ r ∈ e.routes policy, tagValue? "experimentId" r.action.writeSyntax = some e.id) ∧
      (∀ q, Issued b settings id service s q → q.experimentId = id ∧
        ∃ r ∈ e.routes policy, writtenMeasurement r.action.writeSyntax = q.measurement) ∧
      ((∀ q, Issued b settings id service s q → ∀ r ∈ e.routes policy,
          tagValue? "experimentId" r.action.writeSyntax = some q.experimentId) ↔
        id = e.id ∨ ∀ q, ¬ Issued b settings id service s q) := by
  refine ⟨fun error herror q hq => ?_, fun e he => ?_⟩
  · obtain ⟨qs, hqs, -⟩ := hq.exists_query
    obtain ⟨e, he, -⟩ := queries_ok hqs
    rw [he] at herror
    cases herror
  obtain ⟨x, hx, hid⟩ := Experiments.complete_ok he
  have hsolid : Solid e.id := hid ▸ x.solid_toHex
  have hne : e.id ≠ "" := hid ▸ x.toHex_ne_empty
  have htag : ∀ r ∈ e.routes policy,
      tagValue? "experimentId" r.action.writeSyntax = some e.id := by
    intro r hr
    obtain ⟨source, hsource, rfl⟩ := List.mem_map.mp hr
    exact Source.experimentTag_eq hsource hsolid hne
  have hissued : ∀ q, Issued b settings id service s q → q.experimentId = id ∧
      ∃ r ∈ e.routes policy, writtenMeasurement r.action.writeSyntax = q.measurement := by
    intro q hq
    obtain ⟨qs, hqs, d, hd, rfl⟩ := hq.exists_query
    obtain ⟨e', he', rfl⟩ := queries_ok hqs
    obtain rfl : e' = e := Except.ok.inj (he'.symm.trans he)
    obtain ⟨source, hsource, hmeasurement⟩ := exists_source_of_mem_compileQueries hd
    refine ⟨rfl, source.route e'.id policy, List.mem_map_of_mem hsource, ?_⟩
    exact (Source.writtenMeasurement_eq hsource _).trans hmeasurement.symm
  refine ⟨⟨x, hx, hid⟩, htag, hissued, fun hall => ?_, ?_⟩
  · by_cases hnone : ∃ q, Issued b settings id service s q
    · obtain ⟨q, hq⟩ := hnone
      obtain ⟨hcaller, r, hr, -⟩ := hissued q hq
      have hsame := (hall q hq r hr).symm.trans (htag r hr)
      exact .inl (hcaller.symm.trans (Option.some.inj hsame))
    · exact .inr fun q hq => hnone ⟨q, hq⟩
  · rintro (hcaller | hnone) q hq r hr
    · rw [htag r hr, (hissued q hq).1, hcaller]
    · exact absurd hq (hnone q)

end Dashboard

end

namespace Dashboard

/-! ## Two spellings of an id -/

/-- A sensor with one characteristic. -/
def hygrometer : Document :=
  [("_id", .text "650000000000000000000001"), ("name", .text "Hygro"),
    ("services", .list [.object [
      ("characteristics", .list [.object [("name", .text "Humidity"),
        ("structParser", .object [("fields", .list [.object [("name", .text "h")]])])]]),
      ("uuid", .text "env")]]),
    ("shortName", .text "hy")]

/-- An experiment with this sensor. -/
def greenhouse : Document :=
  [("_id", .text "6500000000000000000000aa"),
    ("devices", .list [.object [("enabledServices", .list [.text "env"]),
      ("macAddress", .text "AA:01"), ("sensorId", .text "650000000000000000000001")]])]

/-- Backends that accept everything and have no points. -/
def quiet : Backends Unit where
  fresh _ := ⟨List.replicate 12 0, rfl⟩
  series _ _ := (.ok .empty, ())
  sync := Sync.accepted

/-- A store into which the sensor and the experiment were put. -/
def furnished : DocumentStore × Unit :=
  Operation.after quiet.answer (do
    let _ ← Sensors.insert hygrometer
    Experiments.insert "qiot" none greenhouse) (.memory [], ())

/-- The ids under which the dashboard of an experiment asks for series. -/
def issuedIds (id : String) : List String :=
  ((build .standard id "env").run.questions quiet.answer furnished).filterMap fun
    | .series q => some q.experimentId
    | _ => none

theorem exists_issued {id x : String} (h : x ∈ issuedIds id) :
    ∃ q, Issued quiet .standard id "env" furnished q ∧ q.experimentId = x := by
  obtain ⟨step, hstep, hx⟩ := List.mem_filterMap.mp h
  cases step with
  | series q => exact ⟨q, .inl hstep, Option.some.inj hx⟩
  | store => cases hx
  | sync => cases hx

/-- What the line of every route of the complete experiment is tagged with. -/
def writtenTags (id : String) : Except Error (List (Option String)) :=
  (Operation.result quiet.answer (Experiments.complete "qiot" id) furnished).map fun e =>
    (e.routes .standard).map fun r => tagValue? "experimentId" r.action.writeSyntax

theorem exists_complete {id : String} {tags : List (Option String)}
    (h : writtenTags id = .ok tags) : ∃ e,
      Operation.result quiet.answer (Experiments.complete "qiot" id) furnished = .ok e ∧
      (e.routes .standard).map (fun r => tagValue? "experimentId" r.action.writeSyntax) = tags := by
  unfold writtenTags at h
  cases he : Operation.result quiet.answer (Experiments.complete "qiot" id) furnished with
  | error error =>
    rw [he] at h
    cases h
  | ok e =>
    rw [he] at h
    exact ⟨e, rfl, Except.ok.inj h⟩

/-- Under the stored spelling, the series are asked for under the tag of the lines. -/
theorem issued_agrees_lowercase : ∃ e,
    Operation.result quiet.answer
      (Experiments.complete "qiot" "6500000000000000000000aa") furnished = .ok e ∧
    (∃ q, Issued quiet .standard "6500000000000000000000aa" "env" furnished q) ∧
    ∀ q, Issued quiet .standard "6500000000000000000000aa" "env" furnished q →
      ∀ r ∈ e.routes .standard,
        tagValue? "experimentId" r.action.writeSyntax = some q.experimentId := by
  have htags : writtenTags "6500000000000000000000aa" = .ok [some "6500000000000000000000aa"] := by
    decide +kernel
  have hids : "6500000000000000000000aa" ∈ issuedIds "6500000000000000000000aa" := by
    decide +kernel
  obtain ⟨e, he, htags⟩ := exists_complete htags
  obtain ⟨q, hq, -⟩ := exists_issued hids
  obtain ⟨-, htag, -, hiff⟩ := (issued_agrees_iff quiet .standard .standard
    "6500000000000000000000aa" "env" furnished).2 e he
  obtain ⟨r, hr, hrtag⟩ : ∃ r ∈ e.routes .standard,
      tagValue? "experimentId" r.action.writeSyntax = some "6500000000000000000000aa" := by
    have hmem : some "6500000000000000000000aa" ∈ (e.routes .standard).map
        fun r => tagValue? "experimentId" r.action.writeSyntax := by simp [htags]
    exact List.mem_map.mp hmem
  exact ⟨e, he, ⟨q, hq⟩, hiff.mpr (.inl (Option.some.inj (hrtag.symm.trans (htag r hr))))⟩

/-- Under another spelling that is accepted, the series are asked for under that spelling, and no
line is tagged with it. -/
theorem uppercase_id_unwritten : ∃ e q,
    Operation.result quiet.answer
      (Experiments.complete "qiot" "6500000000000000000000AA") furnished = .ok e ∧
    Issued quiet .standard "6500000000000000000000AA" "env" furnished q ∧
    e.routes .standard ≠ [] ∧ ∀ r ∈ e.routes .standard,
      tagValue? "experimentId" r.action.writeSyntax ≠ some q.experimentId := by
  have htags : writtenTags "6500000000000000000000AA" = .ok [some "6500000000000000000000aa"] := by
    decide +kernel
  have hids : "6500000000000000000000AA" ∈ issuedIds "6500000000000000000000AA" := by
    decide +kernel
  obtain ⟨e, he, htags⟩ := exists_complete htags
  obtain ⟨q, hq, hid⟩ := exists_issued hids
  refine ⟨e, q, he, hq, ?_, fun r hr => ?_⟩
  · rintro hnil
    simp [hnil] at htags
  · have hmem := List.mem_map_of_mem (f := fun r : Route =>
      tagValue? "experimentId" r.action.writeSyntax) hr
    rw [htags, List.mem_singleton] at hmem
    rw [hmem, hid]
    decide

end Dashboard

end Telemetry
