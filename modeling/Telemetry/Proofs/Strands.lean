import Telemetry.Proofs.Fields
import Telemetry.Proofs.Line.Reading
import Telemetry.Proofs.Policy

/-!
# What is written and what is read

Routes and descriptors are made from the same sources, along two ways that have nothing else in
common: `Parser.dispatch` says what the action of a source writes, `Source.descriptors` what can be
queried.

* `Strand`: a source with its route, the line of its action and its descriptors;
  `Strand.Agrees`: they name the same measurement, device and fields.
* `routes_agree_with_queries`: the routes and the descriptors of an experiment are strands that
  agree, so that everything that is queried is written, and everything that is written and is no
  telemetry of the gateway is queried.
-/

namespace Telemetry

/-- A source with its route, the line that the route's action writes, and its descriptors. -/
structure Strand where
  source : Source
  route : Route
  line : LineReading
  block : List Descriptor

/-- The strand of a source of an experiment. -/
def Source.strand (s : Source) (experiment : String) (p : NamingPolicy) (bucket : String) :
    Strand :=
  ⟨s, s.route experiment p, s.line experiment, s.descriptors bucket⟩

namespace Strand

/-- The keys of the fields that the line of a strand assigns. -/
def keys (x : Strand) : List String := x.line.fields.map LineItem.key

/-- The action writes the line, and the line is what is read there if neither the id of the
experiment nor a name of a field looks like more than one item. Route, line and descriptors name the
same measurement, the descriptors the device and, in their order, the declared fields. The line
assigns these fields in the same order, and after them telemetry of the gateway. -/
structure Agrees (x : Strand) (experiment bucket : String) : Prop where
  text : x.route.action.writeSyntax = x.line.text
  read : Solid experiment → (∀ f ∈ x.source.parser.fields, IsKey f.name) →
    readLine x.route.action.writeSyntax = x.line
  measurement : x.line.measurement = x.route.measurement
  readMeasurement : writtenMeasurement x.route.action.writeSyntax = x.route.measurement
  assigned : ∀ item ∈ x.line.fields, item.value.isSome
  written : x.keys = x.source.parser.fields.map Field.name ++ x.source.parser.kind.gatewayFields
  described : x.block.map Descriptor.field = x.source.parser.fields.map Field.name
  labelled : ∀ d ∈ x.block, d.measurement = x.route.measurement ∧
    d.deviceAddress = x.source.device.address ∧ d.bucket = bucket ∧ d.service = x.source.service?

/-- The strand is shown on the dashboard of a service. -/
def BelongsTo (x : Strand) (service : String) : Prop :=
  x.source.branch = .structured service ∨ x.source.branch = .whiteboard

end Strand

theorem Source.strand_agrees {e : CompleteExperiment} {s : Source} (hs : s ∈ e.sources)
    (p : NamingPolicy) (bucket : String) : (s.strand e.id p bucket).Agrees e.id bucket where
  text := s.writeSyntax_eq e.id p
  read := fun hid hnames => readLine_template hs hid hnames
  measurement := rfl
  readMeasurement := writtenMeasurement_eq hs e.id
  assigned := s.isSome_value_line e.id
  written := by
    have hkeys : (s.line e.id).fields.map LineItem.key =
        s.parser.dispatch.fields.map Assignment.key := List.map_map
    exact hkeys.trans s.parser.keys_dispatch
  described := by simp [strand, descriptors, Function.comp_def]
  labelled := by
    intro d hd
    obtain ⟨f, -, rfl⟩ := List.mem_map.mp hd
    exact ⟨rfl, rfl, rfl, rfl⟩

/-- The sources with their routes and descriptors are all strands of an experiment. -/
theorem flatten_strands (e : CompleteExperiment) (p : NamingPolicy) (bucket : String) :
    ((e.sources.map (·.strand e.id p bucket)).map Strand.block).flatten =
      e.descriptors bucket := by
  simp [CompleteExperiment.descriptors, List.flatMap, Source.strand, Function.comp_def]

namespace Strand

variable {x : Strand} {experiment bucket service : String}

/-- A descriptor of a strand is shown where the strand is. -/
theorem Agrees.belongsTo_iff (h : x.Agrees experiment bucket) {d : Descriptor} (hd : d ∈ x.block) :
    d.belongsTo service = true ↔ x.BelongsTo service := by
  rw [Descriptor.belongsTo_iff, (h.labelled d hd).2.2.2]
  unfold Source.service? BelongsTo
  cases x.source.branch <;> simp

/-- A field that is described is written. -/
theorem Agrees.field_mem_keys (h : x.Agrees experiment bucket) {d : Descriptor}
    (hd : d ∈ x.block) : d.field ∈ x.keys := by
  have hf : d.field ∈ x.block.map Descriptor.field := List.mem_map_of_mem hd
  rw [h.described] at hf
  rw [h.written]
  exact List.mem_append_left _ hf

/-- A field that is written and is no telemetry of the gateway is described. -/
theorem Agrees.exists_descriptor (h : x.Agrees experiment bucket) {key : String}
    (hk : key ∈ x.keys) (hg : key ∉ ["gatewayBattery", "rssi"]) : ∃ d ∈ x.block, d.field = key := by
  rw [h.written, List.mem_append] at hk
  obtain hk | hk := hk
  · rw [← h.described] at hk
    exact List.mem_map.mp hk
  · exact (hg (ParserKind.mem_gatewayFields hk)).elim

end Strand

/-- Write path and read path of an experiment agree. Its routes, sources and descriptors are the
parts of strands that agree, in one order. What a dashboard asks for is written, and what the
strands of its service and of whiteboards write is asked for, except telemetry of the gateway. -/
theorem routes_agree_with_queries (e : CompleteExperiment) (p : NamingPolicy) (bucket : String) :
    ∃ strands : List Strand,
      strands.map Strand.route = e.routes p ∧ strands.map Strand.source = e.sources ∧
      (strands.map Strand.block).flatten = e.descriptors bucket ∧
      (∀ x ∈ strands, x.Agrees e.id bucket) ∧
      ∀ service : String,
        (∀ q ∈ compileQueries (e.descriptors bucket) service, ∃ x ∈ strands,
          x.BelongsTo service ∧ q.measurement = x.line.measurement ∧ q.field ∈ x.keys ∧
          q.deviceAddress = x.source.device.address) ∧
        ∀ x ∈ strands, x.BelongsTo service → ∀ key ∈ x.keys, key ∉ ["gatewayBattery", "rssi"] →
          ∃ q ∈ compileQueries (e.descriptors bucket) service,
            q.measurement = x.line.measurement ∧ q.field = key ∧
            q.deviceAddress = x.source.device.address := by
  have hagrees : ∀ x ∈ e.sources.map (·.strand e.id p bucket), x.Agrees e.id bucket := by
    intro x hx
    obtain ⟨s, hs, rfl⟩ := List.mem_map.mp hx
    exact Source.strand_agrees hs p bucket
  refine ⟨e.sources.map (·.strand e.id p bucket), ?_, ?_, flatten_strands e p bucket, hagrees,
    fun service => ⟨fun q hq => ?_, fun x hx hs key hk hg => ?_⟩⟩
  · simp [CompleteExperiment.routes, Source.strand, Function.comp_def]
  · simp [Source.strand, Function.comp_def]
  · obtain ⟨d, hd, hs, -, rfl⟩ := mem_compileQueries.mp hq
    rw [← flatten_strands e p bucket] at hd
    obtain ⟨block, hb, hd⟩ := List.mem_flatten.mp hd
    obtain ⟨x, hx, rfl⟩ := List.mem_map.mp hb
    have hl := (hagrees x hx).labelled d hd
    exact ⟨x, hx, ((hagrees x hx).belongsTo_iff hd).mp hs,
      hl.1.trans (hagrees x hx).measurement.symm, (hagrees x hx).field_mem_keys hd, hl.2.1⟩
  · obtain ⟨d, hd, rfl⟩ := (hagrees x hx).exists_descriptor hk hg
    have hl := (hagrees x hx).labelled d hd
    refine ⟨d.query, mem_compileQueries.mpr ⟨d, ?_, ?_, hg, rfl⟩,
      hl.1.trans (hagrees x hx).measurement.symm, rfl, hl.2.1⟩
    · rw [← flatten_strands e p bucket]
      exact List.mem_flatten.mpr ⟨x.block, List.mem_map_of_mem hx, hd⟩
    · exact ((hagrees x hx).belongsTo_iff hd).mpr hs

/-- The lines of a mast: the wind of its service with telemetry of the gateway, and the wind of its
whiteboard without. Both are asked for on the dashboard of the service. -/
theorem routes_agree_with_queries_mast :
    ∃ x y : Strand,
      [x.route, y.route] = (mastExperiment "7").routes .standard ∧
      readLine x.route.action.writeSyntax = x.line ∧
      x.keys = ["v", "gatewayBattery", "rssi"] ∧
      readLine y.route.action.writeSyntax = y.line ∧ y.keys = ["v"] ∧
      (∃ q ∈ compileQueries ((mastExperiment "7").descriptors "data") "env",
        q.measurement = writtenMeasurement x.route.action.writeSyntax ∧ q.field = "v") ∧
      ∃ q ∈ compileQueries ((mastExperiment "7").descriptors "data") "wind",
        q.measurement = writtenMeasurement y.route.action.writeSyntax ∧ q.field = "v" := by
  obtain ⟨strands, hroutes, hsources, -, hagrees, hqueries⟩ :=
    routes_agree_with_queries (mastExperiment "7") .standard "data"
  rw [sources_mastExperiment] at hsources
  obtain ⟨x, rest, rfl, hx, hrest⟩ := List.map_eq_cons_iff.mp hsources
  obtain ⟨y, rest, rfl, hy, hrest⟩ := List.map_eq_cons_iff.mp hrest
  obtain rfl := List.map_eq_nil_iff.mp hrest
  have hagreesx := hagrees x (.head _)
  have hagreesy := hagrees y (.tail _ (.head _))
  have hid : Solid (mastExperiment "7").id := by decide
  have hkeysx : x.keys = ["v", "gatewayBattery", "rssi"] := by rw [hagreesx.written, hx]; rfl
  have hkeysy : y.keys = ["v"] := by rw [hagreesy.written, hy]; rfl
  refine ⟨x, y, hroutes, hagreesx.read hid (by rw [hx]; decide), hkeysx,
    hagreesy.read hid (by rw [hy]; decide), hkeysy, ?_, ?_⟩
  · obtain ⟨q, hq, hmeasurement, hfield, -⟩ := (hqueries "env").2 x (.head _)
      (.inl (by rw [hx]; rfl)) "v" (by rw [hkeysx]; exact .head _) (by decide)
    exact ⟨q, hq, by rw [hmeasurement, hagreesx.measurement, hagreesx.readMeasurement], hfield⟩
  · obtain ⟨q, hq, hmeasurement, hfield, -⟩ := (hqueries "wind").2 y (.tail _ (.head _))
      (.inr (by rw [hy]; rfl)) "v" (by rw [hkeysy]; exact .head _) (by decide)
    exact ⟨q, hq, by rw [hmeasurement, hagreesy.measurement, hagreesy.readMeasurement], hfield⟩

end Telemetry
