import Mathlib.Data.List.Nodup
import Telemetry.Proofs.Line.Reading

/-!
# Names that are taken

The fields that a document declares share their names with what is written and selected beside them:
telemetry of the gateway, the tags of the payload, the tag of the experiment, and the element of an
array. Nothing keeps a document from declaring one of these names.

* `ParserKind.tagKeys`, `ParserKind.ownAliases`, `ParserKind.element?`: what is named for a kind of
  parser beside the declared fields.
* `Parser.Avoids`: no declared field has one of some names; `Parser.nodup_append_iff`: this is what
  keeps distinct names distinct beside others.
* `Parser.written_once_iff`: distinct fields are written and bound once exactly if they avoid the
  names that are taken.
* `gatewayBattery_written_twice`: a document declares a field under the name of the telemetry.
-/

namespace Telemetry

/-! ## Names beside the declared ones -/

namespace ParserKind

/-- The keys of the tags that are written for a kind of parser. -/
def tagKeys : ParserKind → List String
  | struct => "appTagName" :: deviceTags
  | jsonPayload | jsonArray | single => deviceTags

/-- The aliases of a rule for a kind of parser, beside those of the declared fields. -/
def ownAliases : ParserKind → List String
  | struct => []
  | jsonPayload => gatewayBattery :: deviceTags
  | jsonArray | single => deviceTags

/-- The name of the element that a rule for a kind of parser goes through. -/
def element? : ParserKind → Option String
  | jsonArray => some elementName
  | struct | jsonPayload | single => none

end ParserKind

namespace Selection

/-- The aliases of the projections. -/
def aliases (s : Selection) : List String := s.items.map Projection.name

/-- The name of the element that a selection goes through. -/
def element? : Selection → Option String
  | forEach _ element _ => some element
  | wildcard | projections _ => none

/-- All names that a rule with this selection binds. -/
def bound (s : Selection) : List String := s.element?.toList ++ s.aliases

end Selection

/-- The key of the tag of an experiment, if it is written. -/
def experimentKeys (experiment : String) : List String :=
  (experimentTags experiment).map Assignment.key

/-- The keys of all tags and fields of a line. -/
def LineTemplate.itemKeys (t : LineTemplate) : List String :=
  (t.tags ++ t.fields).map Assignment.key

/-- The keys of all tags and fields that are read in a line. -/
def LineReading.itemKeys (r : LineReading) : List String := (r.tags ++ r.fields).map LineItem.key

theorem experimentKeys_eq (experiment : String) :
    experimentKeys experiment = [] ∨ experimentKeys experiment = ["experimentId"] := by
  unfold experimentKeys experimentTags
  split
  · exact .inl rfl
  · exact .inr rfl

namespace Parser

variable {p : Parser}

/-- No declared field has one of these names. -/
def Avoids (p : Parser) (names : List String) : Prop := ∀ f ∈ p.fields, f.name ∉ names

instance (p : Parser) (names : List String) : Decidable (p.Avoids names) :=
  inferInstanceAs (Decidable (∀ f ∈ p.fields, f.name ∉ names))

theorem avoids_iff_disjoint {names : List String} :
    p.Avoids names ↔ (p.fields.map Field.name).Disjoint names := by
  rw [List.disjoint_left, Avoids, List.forall_mem_map]

/-- Distinct names stay distinct beside others exactly if they avoid these. -/
theorem nodup_append_iff {own : List String} (h : (p.fields.map Field.name).Nodup)
    (hown : own.Nodup) : (p.fields.map Field.name ++ own).Nodup ↔ p.Avoids own := by
  rw [avoids_iff_disjoint, List.nodup_append']
  exact ⟨fun h => h.2.2, fun hdisjoint => ⟨h, hown, hdisjoint⟩⟩

/-! ## What is named -/

theorem keys_tags (p : Parser) : p.dispatch.tags.map Assignment.key = p.kind.tagKeys := by
  cases p <;> rfl

/-- A rule for a JSON parser has an alias for each field and tag. -/
theorem aliases_dispatch (hkind : p.kind ≠ .struct) : p.dispatch.selection.aliases =
    p.fields.map Field.name ++ p.kind.ownAliases := by
  have haliases : p.dispatch.selection.aliases =
      p.dispatch.fields.map Assignment.key ++ p.dispatch.tags.map Assignment.key := by
    cases p with
    | struct p => exact absurd rfl hkind
    | jsonPayload p =>
      exact (dispatchJson_wired (fun _ => rfl) (Field.reads_payloadExpr p.useJq) _).aliases
    | jsonArray p => exact (dispatchJson_wired (fun _ => rfl) Field.reads_elementExpr _).aliases
    | single fields =>
      exact (dispatchJson_wired (fun _ => rfl) (Field.reads_payloadExpr false) _).aliases
  have hown : p.kind.ownAliases = p.kind.gatewayFields ++ p.kind.tagKeys := by
    cases p with
    | struct p => exact absurd rfl hkind
    | _ => rfl
  rw [haliases, p.keys_dispatch, p.keys_tags, hown, List.append_assoc]

theorem element?_dispatch (p : Parser) : p.dispatch.selection.element? = p.kind.element? := by
  cases p <;> rfl

/-! ## Written and bound once -/

theorem nodup_fields_iff (h : (p.fields.map Field.name).Nodup) :
    (p.dispatch.fields.map Assignment.key).Nodup ↔ p.Avoids p.kind.gatewayFields := by
  rw [p.keys_dispatch]
  exact nodup_append_iff h (by cases p.kind <;> decide)

/-- No key is that of a field and of a tag exactly if the declared names avoid the tags: the
telemetry of the gateway always does. -/
theorem disjoint_tags_iff (p : Parser) :
    (p.dispatch.fields.map Assignment.key).Disjoint (p.dispatch.tags.map Assignment.key) ↔
      p.Avoids p.kind.tagKeys := by
  have hgateway : p.kind.gatewayFields.Disjoint p.kind.tagKeys := by
    cases p.kind <;> simp [ParserKind.gatewayFields, ParserKind.tagKeys, deviceTags]
  rw [p.keys_dispatch, p.keys_tags, List.disjoint_append_left, avoids_iff_disjoint,
    and_iff_left hgateway]

theorem nodup_aliases_iff (h : (p.fields.map Field.name).Nodup) :
    p.dispatch.selection.aliases.Nodup ↔ p.Avoids p.kind.ownAliases := by
  by_cases hkind : p.kind = .struct
  · cases p with
    | struct p => exact iff_of_true List.nodup_nil fun _ _ => List.not_mem_nil
    | _ => cases hkind
  · rw [aliases_dispatch hkind]
    exact nodup_append_iff h (by cases p.kind <;> decide)

/-- The name of an array's element is bound before those of the projections. -/
theorem nodup_bound_iff (h : (p.fields.map Field.name).Nodup) :
    p.dispatch.selection.bound.Nodup ↔
      p.Avoids (p.kind.element?.toList ++ p.kind.ownAliases) := by
  rw [Selection.bound, p.element?_dispatch]
  by_cases hkind : p.kind = .struct
  · cases p with
    | struct p => exact iff_of_true List.nodup_nil fun _ _ => List.not_mem_nil
    | _ => cases hkind
  · rw [aliases_dispatch hkind, (List.perm_append_comm_assoc ..).nodup_iff]
    exact nodup_append_iff h (by cases p.kind <;> decide)

end Parser

namespace Source

/-- The keys of a line, the declared ones first. -/
theorem itemKeys_template (s : Source) (experiment : String) :
    (s.template experiment).itemKeys.Perm (s.parser.fields.map Field.name ++
      (experimentKeys experiment ++ s.parser.kind.tagKeys ++ s.parser.kind.gatewayFields)) := by
  have hkeys : (s.template experiment).itemKeys =
      experimentKeys experiment ++ s.parser.kind.tagKeys ++
        (s.parser.fields.map Field.name ++ s.parser.kind.gatewayFields) := by
    rw [← s.parser.keys_dispatch, ← s.parser.keys_tags, experimentKeys, ← List.map_append,
      ← List.map_append]
    rfl
  rw [hkeys]
  exact List.perm_append_comm_assoc ..

theorem nodup_itemKeys_iff {s : Source} (h : (s.parser.fields.map Field.name).Nodup)
    (experiment : String) : (s.template experiment).itemKeys.Nodup ↔ s.parser.Avoids
      (experimentKeys experiment ++ s.parser.kind.tagKeys ++ s.parser.kind.gatewayFields) := by
  rw [(s.itemKeys_template experiment).nodup_iff]
  refine Parser.nodup_append_iff h ?_
  obtain hnone | hid := experimentKeys_eq experiment
  · rw [hnone]
    cases s.parser.kind <;> decide
  · rw [hid]
    cases s.parser.kind <;> decide

/-- A line that can be read has the keys that were written. -/
theorem itemKeys_readLine {e : CompleteExperiment} {s : Source} (hs : s ∈ e.sources)
    (hid : Solid e.id) (hnames : ∀ f ∈ s.parser.fields, IsKey f.name) :
    (readLine (s.template e.id).text).itemKeys = (s.template e.id).itemKeys := by
  rw [readLine_template hs hid hnames, LineReading.itemKeys, ← List.map_append, List.map_map]
  rfl

end Source

/-- Let the names of the declared fields be distinct.

* The fields that are written have distinct keys exactly if no name is that of telemetry which is
  written too, they have other keys than the tags exactly if no name is that of a tag, and the
  projections have distinct aliases exactly if no name is an alias that is given anyway.
* The line of each action, and what is read in it, has each key once exactly if no name is that of a
  tag, the tag of the experiment included, or of telemetry. Each rule binds each name once exactly if
  none is an alias that is given anyway or the name of the element. -/
theorem Parser.written_once_iff (p : Parser) (h : (p.fields.map Field.name).Nodup) :
    ((p.dispatch.fields.map Assignment.key).Nodup ↔ p.Avoids p.kind.gatewayFields) ∧
    ((p.dispatch.fields.map Assignment.key).Disjoint (p.dispatch.tags.map Assignment.key) ↔
      p.Avoids p.kind.tagKeys) ∧
    (p.dispatch.selection.aliases.Nodup ↔ p.Avoids p.kind.ownAliases) ∧
    ∀ (e : CompleteExperiment) (policy : NamingPolicy), ∀ s ∈ e.sources, s.parser = p →
      (s.route e.id policy).action.writeSyntax = (s.template e.id).text ∧
      ((s.template e.id).itemKeys.Nodup ↔
        p.Avoids (experimentKeys e.id ++ p.kind.tagKeys ++ p.kind.gatewayFields)) ∧
      (Solid e.id → (∀ f ∈ p.fields, IsKey f.name) →
        (readLine (s.route e.id policy).action.writeSyntax).itemKeys =
          (s.template e.id).itemKeys) ∧
      (s.route e.id policy).rule.sql = p.dispatch.selection.sql s.topic ∧
      (p.dispatch.selection.bound.Nodup ↔
        p.Avoids (p.kind.element?.toList ++ p.kind.ownAliases)) := by
  refine ⟨nodup_fields_iff h, p.disjoint_tags_iff, nodup_aliases_iff h, ?_⟩
  rintro e policy s hs rfl
  exact ⟨rfl, Source.nodup_itemKeys_iff h e.id, Source.itemKeys_readLine hs, rfl,
    nodup_bound_iff h⟩

/-- Two single measurements, one of them under a name that is taken in structs only. -/
def airFields : List Field := [⟨"t", some "t", none⟩, ⟨"rssi", none, some "integer"⟩]

theorem written_once_iff_air :
    (airFields.map Field.name).Nodup ∧ ∃ s ∈ (airExperiment airFields).sources,
      (readLine (s.route (airExperiment airFields).id .standard).action.writeSyntax).itemKeys =
        ["experimentId", "deviceAddress", "deviceName", "gatewayName", "t", "rssi"] ∧
      (s.template (airExperiment airFields).id).itemKeys.Nodup ∧
      s.dispatch.selection.bound.Nodup := by
  have hnames : (airFields.map Field.name).Nodup := by decide
  have hs : (⟨(airExperiment airFields).devices.head (by decide), .structured "env", "Air",
      "tag_air", "t/air", .single airFields⟩ : Source) ∈ (airExperiment airFields).sources := by
    decide +kernel
  obtain ⟨-, -, -, hroutes⟩ := Parser.written_once_iff (.single airFields) hnames
  obtain ⟨-, hline, hread, -, hbound⟩ := hroutes _ .standard _ hs rfl
  exact ⟨hnames, _, hs, (hread (by decide) (by decide)).trans (by decide), hline.mpr (by decide),
    hbound.mpr (by decide)⟩

/-- A JSON payload with a field that has the name of the telemetry and a path of its own. -/
def batteryParser : Parser :=
  .jsonPayload ⟨[⟨"gatewayBattery", some "battery.gateway", none⟩], false⟩

/-- The field and the telemetry are written under one key, and selected under one alias. A name that
is declared may also be that of a tag. -/
theorem gatewayBattery_written_twice :
    (batteryParser.fields.map Field.name).Nodup ∧
    batteryParser.dispatch.fields =
      [⟨"gatewayBattery", placeholder "gatewayBattery", false⟩,
        ⟨"gatewayBattery", placeholder "gatewayBattery", true⟩] ∧
    ¬ (batteryParser.dispatch.fields.map Assignment.key).Nodup ∧
    batteryParser.dispatch.selection.items.take 2 =
      [⟨"payload.battery.gateway", "gatewayBattery"⟩,
        ⟨"payload.gatewayBattery", "gatewayBattery"⟩] ∧
    ¬ batteryParser.dispatch.selection.aliases.Nodup ∧
    ∃ p : Parser, (p.fields.map Field.name).Nodup ∧ ∃ w ∈ p.dispatch.fields,
      ∃ t ∈ p.dispatch.tags, w.key = t.key := by
  exact ⟨by decide, by decide, by decide, by decide, by decide,
    .single [⟨"deviceName", none, none⟩], by decide, by decide⟩

end Telemetry
