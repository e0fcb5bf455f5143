import Telemetry.Proofs.Fields
import Telemetry.Proofs.Naming.Identity

/-!
# What the id of a query identifies

The id of a query is the label of its source, the measurement and the field, with nothing between
them and without the address of the device.

* `Source.stem`: what the ids of a source's queries start with; `mem_compileQueries_source`: the
  queries of a dashboard by their sources and fields.
* `Source.Clashes`: two sources have queries of the same id for different series.
* `ids_identify_iff`: the ids of a dashboard identify its series exactly if no two of its sources
  clash, and so if no stem begins another one.
* `twins_share_ids`: devices of the same names that share all their ids.
-/

namespace Telemetry

/-- Queries that have the same id are for the same series. -/
def IdentifiedByIds (queries : List QueryDescriptor) : Prop :=
  ∀ q ∈ queries, ∀ q' ∈ queries, q.id = q'.id →
    q.deviceAddress = q'.deviceAddress ∧ q.measurement = q'.measurement ∧ q.field = q'.field

instance (queries : List QueryDescriptor) : Decidable (IdentifiedByIds queries) :=
  inferInstanceAs (Decidable (∀ q ∈ queries, ∀ q' ∈ queries, _ → _))

namespace Source

/-- What the ids of a source's queries start with. -/
def stem (s : Source) : String := s.displayName ++ s.measurement

/-- The names of the declared fields, without telemetry of the gateway. -/
def queriedFields (s : Source) : List String :=
  (s.parser.fields.map Field.name).filter fun name => !gatewayFields.contains name

/-- The query for a field of a source. -/
def query (s : Source) (bucket field : String) : QueryDescriptor :=
  Descriptor.query ⟨bucket, s.measurement, s.device.address, s.displayName, field, s.service?⟩

theorem id_query (s : Source) (bucket field : String) :
    (s.query bucket field).id = s.stem ++ field := rfl

/-- What is stored for the two sources has the same address and the same measurement. -/
def SameStore (s s' : Source) : Prop :=
  s.device.address = s'.device.address ∧ s.measurement = s'.measurement

instance (s s' : Source) : Decidable (s.SameStore s') := inferInstanceAs (Decidable (_ ∧ _))

/-- The second stem begins with the first one, and what it is longer by, followed by a field of the
second source, is a field of the first one: the queries for these fields have the same id. They are
for different series, unless stem, address and measurement are the same. -/
def Clashes (s s' : Source) : Prop :=
  ∃ rest, s'.stem = s.stem ++ rest ∧
    (∃ field ∈ s'.queriedFields, rest ++ field ∈ s.queriedFields) ∧ ¬ (rest = "" ∧ s.SameStore s')

end Source

/-- The sources on the dashboard of a service. -/
def CompleteExperiment.shown (e : CompleteExperiment) (service : String) : List Source :=
  e.sources.filter fun s => s.service?.all (· == service)

/-- The queries of a dashboard are those for the fields of its sources. -/
theorem mem_compileQueries_source {e : CompleteExperiment} {bucket service : String}
    {q : QueryDescriptor} :
    q ∈ compileQueries (e.descriptors bucket) service ↔
      ∃ s ∈ e.shown service, ∃ field ∈ s.queriedFields, s.query bucket field = q := by
  have hbelongs : ∀ (s : Source) (f : Field), Descriptor.belongsTo service
      ⟨bucket, s.measurement, s.device.address, s.displayName, f.name, s.service?⟩ =
        s.service?.all (· == service) := fun s f => by
    unfold Descriptor.belongsTo
    cases s.service? <;> rfl
  rw [mem_compileQueries]
  constructor
  · rintro ⟨d, hd, hservice, hgateway, rfl⟩
    obtain ⟨s, hs, hd⟩ := List.mem_flatMap.mp hd
    obtain ⟨f, hf, rfl⟩ := List.mem_map.mp hd
    rw [hbelongs] at hservice
    exact ⟨s, List.mem_filter.mpr ⟨hs, hservice⟩, f.name,
      List.mem_filter.mpr ⟨List.mem_map_of_mem hf, by simpa using hgateway⟩, rfl⟩
  · rintro ⟨s, hs, field, hfield, rfl⟩
    obtain ⟨hs, hservice⟩ := List.mem_filter.mp hs
    obtain ⟨hfield, hgateway⟩ := List.mem_filter.mp hfield
    obtain ⟨f, hf, rfl⟩ := List.mem_map.mp hfield
    exact ⟨_, List.mem_flatMap.mpr ⟨s, hs, List.mem_map_of_mem hf⟩, (hbelongs s f).trans hservice,
      by simpa using hgateway, rfl⟩

/-- Of two equal texts in two parts each, one has the longer first part. -/
theorem string_append_eq_append_iff {a b c d : String} :
    a ++ c = b ++ d ↔ (∃ rest, b = a ++ rest ∧ c = rest ++ d) ∨
      ∃ rest, a = b ++ rest ∧ d = rest ++ c := by
  have hlist : ∀ {x y z w : String}, (∃ l : List Char, y.toList = x.toList ++ l ∧
      z.toList = l ++ w.toList) ↔ ∃ rest, y = x ++ rest ∧ z = rest ++ w := by
    intro x y z w
    constructor
    · rintro ⟨l, hy, hz⟩
      exact ⟨String.ofList l, String.toList_inj.mp (by simpa using hy),
        String.toList_inj.mp (by simpa using hz)⟩
    · rintro ⟨rest, rfl, rfl⟩
      exact ⟨rest.toList, String.toList_append, String.toList_append⟩
  rw [← String.toList_inj, String.toList_append, String.toList_append, List.append_eq_append_iff,
    hlist, hlist]

namespace Source

variable {s s' : Source} {bucket field field' : String}

/-- If sources do not clash, queries for their fields that have the same id are for one series. -/
theorem same_of_not_clashes (hfield : field ∈ s.queriedFields) (hfield' : field' ∈ s'.queriedFields)
    (hclash : ¬ s.Clashes s') {rest : String} (hstem : s'.stem = s.stem ++ rest)
    (hrest : field = rest ++ field') : s.SameStore s' ∧ field = field' := by
  by_contra hne
  refine hclash ⟨rest, hstem, ⟨field', hfield', hrest ▸ hfield⟩, fun hsame => hne ⟨hsame.2, ?_⟩⟩
  rw [hrest, hsame.1, String.empty_append]

/-- Clashing sources have queries of the same id that are for different series. -/
theorem Clashes.exists_fields (h : s.Clashes s') (bucket : String) :
    ∃ field ∈ s.queriedFields, ∃ field' ∈ s'.queriedFields,
      (s.query bucket field).id = (s'.query bucket field').id ∧
        ¬ (s.SameStore s' ∧ field = field') := by
  obtain ⟨rest, hstem, ⟨field', hfield', hfield⟩, hne⟩ := h
  refine ⟨rest ++ field', hfield, field', hfield', ?_, fun ⟨hsame, heq⟩ => hne ⟨?_, hsame⟩⟩
  · rw [id_query, id_query, hstem, String.append_assoc]
  · simpa using heq

end Source

/-- The ids of a dashboard identify its series exactly if no two of its sources clash. In
particular they do if no stem begins another one, except for sources of the same address,
measurement and stem. -/
theorem ids_identify_iff (e : CompleteExperiment) (bucket service : String) :
    (IdentifiedByIds (compileQueries (e.descriptors bucket) service) ↔
      ∀ s ∈ e.shown service, ∀ s' ∈ e.shown service, ¬ s.Clashes s') ∧
    ((∀ s ∈ e.shown service, ∀ s' ∈ e.shown service, s.stem.toList <+: s'.stem.toList →
        s.stem = s'.stem ∧ s.SameStore s') →
      IdentifiedByIds (compileQueries (e.descriptors bucket) service)) := by
  have hiff : IdentifiedByIds (compileQueries (e.descriptors bucket) service) ↔
      ∀ s ∈ e.shown service, ∀ s' ∈ e.shown service, ¬ s.Clashes s' := by
    constructor
    · intro h s hs s' hs' hclash
      obtain ⟨field, hfield, field', hfield', hid, hne⟩ := hclash.exists_fields bucket
      obtain ⟨haddress, hmeasurement, heq⟩ :=
        h _ (mem_compileQueries_source.mpr ⟨s, hs, field, hfield, rfl⟩)
          _ (mem_compileQueries_source.mpr ⟨s', hs', field', hfield', rfl⟩) hid
      exact hne ⟨⟨haddress, hmeasurement⟩, heq⟩
    · intro h q hq q' hq' hid
      obtain ⟨s, hs, field, hfield, rfl⟩ := mem_compileQueries_source.mp hq
      obtain ⟨s', hs', field', hfield', rfl⟩ := mem_compileQueries_source.mp hq'
      rw [Source.id_query, Source.id_query, string_append_eq_append_iff] at hid
      obtain ⟨rest, hstem, hrest⟩ | ⟨rest, hstem, hrest⟩ := hid
      · obtain ⟨hsame, heq⟩ :=
          Source.same_of_not_clashes hfield hfield' (h s hs s' hs') hstem hrest
        exact ⟨hsame.1, hsame.2, heq⟩
      · obtain ⟨hsame, heq⟩ :=
          Source.same_of_not_clashes hfield' hfield (h s' hs' s hs) hstem hrest
        exact ⟨hsame.1.symm, hsame.2.symm, heq.symm⟩
  refine ⟨hiff, fun h => hiff.mpr fun s hs s' hs' ⟨rest, hstem, _, hne⟩ => ?_⟩
  have hprefix : s.stem.toList <+: s'.stem.toList := ⟨rest.toList, by simp [hstem]⟩
  obtain ⟨heq, hsame⟩ := h s hs s' hs' hprefix
  have hrest : s.stem ++ rest = s.stem ++ "" := by rw [← hstem, heq, String.append_empty]
  exact hne ⟨(String.append_right_inj _).mp hrest, hsame⟩

/-- The measure of a mast is not mixed up with its characteristic, though both are stored under one
measurement. -/
theorem ids_identify_mast : IdentifiedByIds (compileQueries ((mastExperiment "7").descriptors "data")
    "env") :=
  (ids_identify_iff (mastExperiment "7") "data" "env").2 (by decide +kernel)

/-- Two masts of the same names at different addresses. -/
def twins : CompleteExperiment :=
  ⟨"650000000000000000000003", "", [mast, { mast with slot := "sensor_1", address := "AA:02" }]⟩

/-- A device with a measure whose field completes the id of the other measure. -/
def completed : CompleteExperiment where
  id := "650000000000000000000003"
  description := ""
  devices := [{
    slot := "sensor_0"
    sensorId := "650000000000000000000002"
    name := "Tag"
    shortName := "s"
    address := "AA:01"
    services := []
    whiteboard := [⟨"a", "ms/a", { single := some [⟨"s_asax", none, none⟩] }⟩,
      ⟨"as_a", "ms/asa", { single := some [⟨"x", none, none⟩] }⟩] }]

/-- The queries for the wind at two masts of the same names have one id, and so have the queries for
different fields of different measures of one device. -/
theorem twins_share_ids :
    (∃ q ∈ compileQueries (twins.descriptors "data") "env",
      ∃ q' ∈ compileQueries (twins.descriptors "data") "env",
        q.id = q'.id ∧ q.deviceAddress ≠ q'.deviceAddress) ∧
    ∃ q ∈ compileQueries (completed.descriptors "data") "env",
      ∃ q' ∈ compileQueries (completed.descriptors "data") "env",
        q.id = q'.id ∧ q.measurement ≠ q'.measurement ∧ q.field ≠ q'.field := by
  decide +kernel

end Telemetry
