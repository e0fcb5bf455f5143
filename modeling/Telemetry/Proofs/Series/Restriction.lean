import Telemetry.Proofs.Fields
import Telemetry.Proofs.Series.Flux

/-!
# What a dashboard's queries can return

A parser may declare a field with a blank name. Nothing refuses it, and a query for it asks for
every field of its measurement.

* `StoredPoint`, `Flux.Reading.Keeps`: a point, and which points a query returns.
* `mem_compileQueries_declared`: a query is for a declared field that is no telemetry of the
  gateway.
* `queries_restricted`: the text of a query restricts the points to that field, and so keeps out the
  telemetry of the gateway, exactly if the field's name is not blank.
* `halfNamed_unrestricted`: an experiment whose dashboard asks for the telemetry of the gateway.
-/

namespace Telemetry

/-- A stored point: what its columns tell of where it comes from. -/
structure StoredPoint where
  experimentId : String
  deviceAddress : String
  measurement : String
  field : String
  deriving DecidableEq

namespace StoredPoint

/-- What a point holds in a column. -/
def column? (p : StoredPoint) : String → Option String
  | "experimentId" => some p.experimentId
  | "deviceAddress" => some p.deviceAddress
  | "_measurement" => some p.measurement
  | "_field" => some p.field
  | _ => none

end StoredPoint

namespace Flux.Reading

/-- A query returns a point that holds what each condition asks for. -/
def Keeps (x : Reading) (p : StoredPoint) : Prop :=
  ∀ c ∈ x.conditions, p.column? c.1 = some c.2

instance (x : Reading) (p : StoredPoint) : Decidable (x.Keeps p) :=
  inferInstanceAs (Decidable (∀ c ∈ x.conditions, p.column? c.1 = some c.2))

end Flux.Reading

namespace SeriesQuery

/-- What the text of a query is read as. -/
def reading (q : SeriesQuery) : Flux.Reading := ⟨q.bucket, q.window, q.conditions⟩

/-- A query asks for its field, unless that is blank. -/
theorem field_mem_conditions {q : SeriesQuery} {name : String} :
    ("_field", name) ∈ q.conditions ↔ Text.isBlankText q.field = false ∧ name = q.field := by
  unfold conditions
  split <;> simp [*]

theorem keeps_iff {q : SeriesQuery} {p : StoredPoint} :
    q.reading.Keeps p ↔ p.experimentId = q.experimentId ∧ p.deviceAddress = q.deviceAddress ∧
      p.measurement = q.measurement ∧ (Text.isBlankText q.field = false → p.field = q.field) := by
  unfold Flux.Reading.Keeps reading conditions
  split <;> simp [StoredPoint.column?, *]

/-- A query returns points of other fields exactly if its own is blank. -/
theorem exists_keeps_iff {q : SeriesQuery} {names : List String} (hsome : names ≠ [])
    (hfield : q.field ∉ names) :
    (∃ p, q.reading.Keeps p ∧ p.field ∈ names) ↔ Text.isBlankText q.field = true := by
  constructor
  · rintro ⟨p, hp, hnames⟩
    by_contra hblank
    have heq := (keeps_iff.mp hp).2.2.2 (by simpa using hblank)
    exact hfield (heq ▸ hnames)
  · intro hblank
    obtain ⟨name, hname⟩ := List.exists_mem_of_ne_nil names hsome
    refine ⟨⟨q.experimentId, q.deviceAddress, q.measurement, name⟩, keeps_iff.mpr ?_, hname⟩
    simp [hblank]

end SeriesQuery

/-- A query is for a declared field of a source, and that is no telemetry of the gateway. -/
theorem mem_compileQueries_declared {e : CompleteExperiment} {bucket service : String}
    {q : QueryDescriptor} (hq : q ∈ compileQueries (e.descriptors bucket) service) :
    q.bucket = bucket ∧ q.field ∉ gatewayFields ∧
      ∃ s ∈ e.sources, q.measurement = s.measurement ∧ ∃ f ∈ s.parser.fields, q.field = f.name := by
  obtain ⟨d, hd, -, hgateway, rfl⟩ := mem_compileQueries.mp hq
  obtain ⟨s, hs, hd⟩ := List.mem_flatMap.mp hd
  obtain ⟨f, hf, rfl⟩ := List.mem_map.mp hd
  exact ⟨rfl, hgateway, s, hs, rfl, f, hf, rfl⟩

/-- The text of a query of a dashboard is read as a query for a declared field that is no telemetry
of the gateway. It has a condition on the field, which then is the only one and names that field,
exactly if the name is not blank; and it returns points with telemetry of the gateway exactly if the
name is blank. -/
theorem queries_restricted (e : CompleteExperiment) (bucket service id : String) (window : Nat) :
    ∀ q ∈ compileQueries (e.descriptors bucket) service, ∃ reading,
      Flux.read (q.seriesQuery id window).flux = some reading ∧
      reading.bucket = bucket ∧ reading.window = window ∧ q.field ∉ gatewayFields ∧
      (∃ s ∈ e.sources, q.measurement = s.measurement ∧ ∃ f ∈ s.parser.fields, q.field = f.name) ∧
      (∀ name, ("_field", name) ∈ reading.conditions ↔
        Text.isBlankText q.field = false ∧ name = q.field) ∧
      ((∃ p, reading.Keeps p ∧ p.field ∈ gatewayFields) ↔ Text.isBlankText q.field = true) := by
  intro q hq
  obtain ⟨hbucket, hgateway, hsource⟩ := mem_compileQueries_declared hq
  exact ⟨(q.seriesQuery id window).reading, Flux.read_flux _, hbucket, rfl, hgateway, hsource,
    fun _ => SeriesQuery.field_mem_conditions,
    SeriesQuery.exists_keeps_iff (by decide) hgateway⟩

/-- An experiment with a struct parser of two fields, the first of which has a blank name. -/
def halfNamed : CompleteExperiment where
  id := "650000000000000000000001"
  description := ""
  devices := [{
    slot := "sensor_0"
    sensorId := "650000000000000000000002"
    name := "Tag"
    shortName := "tag"
    address := "AA:01"
    services := [⟨"env", [⟨"Air", "", { struct := some ⟨[⟨" ", none, none⟩, ⟨"t", none, none⟩]⟩ },
      some "t/air"⟩]⟩]
    whiteboard := [] }]

/-- The query of that experiment's dashboard for a field. -/
def halfNamedQuery (field : String) : QueryDescriptor where
  id := "tag_airtag_air" ++ field
  label := "tag_air - tag_air - " ++ field
  bucket := "data"
  deviceAddress := "AA:01"
  measurement := "tag_air"
  field := field

theorem compileQueries_halfNamed :
    compileQueries (halfNamed.descriptors "data") "env" =
      [halfNamedQuery " ", halfNamedQuery "t"] := by decide +kernel

/-- The query for the field with a name keeps out the telemetry of the gateway. -/
theorem queries_restricted_halfNamed :
    ∃ q ∈ compileQueries (halfNamed.descriptors "data") "env", ∃ reading,
      Flux.read (q.seriesQuery halfNamed.id 5).flux = some reading ∧
      ("_field", "t") ∈ reading.conditions ∧
      ¬ ∃ p, reading.Keeps p ∧ p.field ∈ gatewayFields := by
  have hq : halfNamedQuery "t" ∈ compileQueries (halfNamed.descriptors "data") "env" := by
    rw [compileQueries_halfNamed]
    exact .tail _ (.head _)
  obtain ⟨reading, hread, -, -, -, -, hfield, hgateway⟩ :=
    queries_restricted halfNamed "data" "env" halfNamed.id 5 (halfNamedQuery "t") hq
  have hblank : Text.isBlankText (halfNamedQuery "t").field = false := by decide
  refine ⟨halfNamedQuery "t", hq, reading, hread, (hfield "t").mpr ⟨hblank, rfl⟩, fun h => ?_⟩
  rw [hgateway, hblank] at h
  cases h

/-- The query for the field with a blank name has no condition on the field, and returns the
telemetry of the gateway. -/
theorem halfNamed_unrestricted :
    ∃ q ∈ compileQueries (halfNamed.descriptors "data") "env", ∃ reading,
      Flux.read (q.seriesQuery halfNamed.id 5).flux = some reading ∧
      (∀ name, ("_field", name) ∉ reading.conditions) ∧
      reading.Keeps ⟨halfNamed.id, "AA:01", "tag_air", rssi⟩ := by
  refine ⟨halfNamedQuery " ", ?_, ((halfNamedQuery " ").seriesQuery halfNamed.id 5).reading,
    Flux.read_flux _, fun name hname => ?_, SeriesQuery.keeps_iff.mpr (by decide +kernel)⟩
  · rw [compileQueries_halfNamed]
    exact .head _
  · exact absurd (SeriesQuery.field_mem_conditions.mp hname).1 (by decide)

end Telemetry
