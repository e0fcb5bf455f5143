import Mathlib.Data.List.Forall2
import Telemetry.Dispatch

/-!
# What is written is selected

The values of an action are placeholders, a dollar sign and braces around a name, which the broker
fills with what the rule selects. The projections of the rule and the items of the action are made
side by side and meet in names alone.

* `Access`, `Access.Takes`: how a kind of parser takes the fields that a document declares.
* `Projection.Feeds`: an item is written from a projection.
* `Dispatched.Wired`, `Dispatched.Flat`: the two ways in which a selection and its writes match.
* `Parser.Matched`, `Parser.placeholders_selected`: JSON parsers are wired, and structs are flat.
-/

namespace Telemetry

/-- How fields are read: all of what they are read from, and what stands there under a path. -/
structure Access where
  whole : String
  inside : String → String

namespace Access

/-- The payload by dotted paths. -/
def dotted : Access := ⟨"payload", fun path => "payload." ++ path⟩

/-- The payload by queries. -/
def jq : Access := ⟨"payload", fun path => "first(jq('." ++ path ++ "', payload))"⟩

/-- The element of an array by dotted paths. -/
def element : Access := ⟨"sample_item", fun path => "sample_item." ++ path⟩

/-- A field is read under its path, or it is the whole if it has none or an empty one. -/
inductive Reads (a : Access) (f : Field) : String → Prop
  | inside {path : String} : f.path = some path → path ≠ "" → Reads a f (a.inside path)
  | whole : f.path = none ∨ f.path = some "" → Reads a f a.whole

/-- The projection of a field has the name of the field and reads it. -/
structure Takes (a : Access) (f : Field) (q : Projection) : Prop where
  name : q.name = f.name
  reads : a.Reads f q.expr

end Access

/-- The key of an item is the name of a projection, and its value the placeholder of that name. -/
structure Projection.Feeds (q : Projection) (a : Assignment) : Prop where
  key : a.key = q.name
  value : a.value = "$\x7b" ++ q.name ++ "\x7d"

/-- An item is written for a field, as an integer if this is the type of the field. Its text is its
key, an equals sign and its value, and behind it the mark of an integer. -/
structure Field.Writes (f : Field) (a : Assignment) : Prop where
  key : a.key = f.name
  integer : a.integer = true ↔ f.kind = some "integer"
  text : a.text = f.name ++ "=" ++ a.value ++ if f.kind = some "integer" then "i" else ""

/-- The selection takes the fields and then the tags of the payload. Each of the items that are
written, the fields and then the tags, is fed by the projection in its place. -/
structure Dispatched.Wired (d : Dispatched) (a : Access) (fields : List Field) : Prop where
  aliases : d.selection.items.map Projection.name =
    d.fields.map Assignment.key ++ d.tags.map Assignment.key
  taken : ∃ fieldItems tagItems, d.selection.items = fieldItems ++ tagItems ∧
    List.Forall₂ a.Takes fields fieldItems ∧ List.Forall₂ Projection.Feeds fieldItems d.fields ∧
    List.Forall₂ Projection.Feeds tagItems d.tags ∧
    ∀ q ∈ tagItems, q.expr = "payload." ++ q.name
  written : List.Forall₂ Field.Writes fields d.fields
  tagged : ∀ t ∈ d.tags, t.integer = false

/-- Everything is selected, and every item is written from a key of the payload: the tags, one of
which has another name there, and as integers the fields and then the telemetry of the gateway. -/
structure Dispatched.Flat (d : Dispatched) (fields : List Field) : Prop where
  selection : d.selection = .wildcard
  keys : d.fields.map Assignment.key = fields.map Field.name ++ ["gatewayBattery", "rssi"]
  written : ∀ w ∈ d.fields, w.value = "$\x7bpayload." ++ w.key ++ "\x7d" ∧ w.integer = true ∧
    w.text = w.key ++ "=" ++ w.value ++ "i"
  tagged : ∀ t ∈ d.tags, t.integer = false ∧ ∃ key, t.value = "$\x7bpayload." ++ key ++ "\x7d" ∧
    (key = t.key ∨ t.key = "appTagName" ∧ key = "APP_TAG_NAME")

namespace Field

theorem path?_eq_some_iff {f : Field} {path : String} :
    f.path? = some path ↔ f.path = some path ∧ path ≠ "" := by
  simp [path?, Option.filter_eq_some_iff]

theorem path?_eq_none_iff {f : Field} : f.path? = none ↔ f.path = none ∨ f.path = some "" := by
  unfold path?
  cases f.path with
  | none => simp
  | some path => simp [Option.filter_eq_none_iff]

theorem reads_payloadExpr (useJq : Bool) (f : Field) :
    (if useJq then Access.jq else Access.dotted).Reads f (f.payloadExpr useJq) := by
  unfold payloadExpr
  cases h : f.path? with
  | none =>
    have hnone := path?_eq_none_iff.mp h
    cases useJq
    · exact .whole hnone
    · exact .whole hnone
  | some path =>
    obtain ⟨hsome, hne⟩ := path?_eq_some_iff.mp h
    cases useJq
    · exact .inside hsome hne
    · exact .inside hsome hne

theorem reads_elementExpr (f : Field) : Access.element.Reads f f.elementExpr := by
  unfold elementExpr
  cases h : f.path? with
  | none => exact .whole (path?_eq_none_iff.mp h)
  | some path =>
    obtain ⟨hsome, hne⟩ := path?_eq_some_iff.mp h
    exact .inside hsome hne

theorem isInteger_iff {f : Field} : f.isInteger = true ↔ f.kind = some "integer" := by
  simp [isInteger]

theorem writes_assignment (f : Field) : f.Writes f.assignment where
  key := rfl
  integer := isInteger_iff
  text := by simp only [Assignment.text, assignment, isInteger_iff]

end Field

/-- Items that are fed have the names of their projections as keys, in the same order. -/
theorem map_name_eq_map_key {qs : List Projection} {as : List Assignment}
    (h : List.Forall₂ Projection.Feeds qs as) :
    qs.map Projection.name = as.map Assignment.key := by
  induction h with
  | nil => rfl
  | cons hfeeds _ ih => rw [List.map_cons, List.map_cons, ih, hfeeds.key]

/-- An item that is fed is written from the placeholder of its own key. -/
theorem value_of_feeds {qs : List Projection} {as : List Assignment}
    (h : List.Forall₂ Projection.Feeds qs as) :
    ∀ w ∈ as, w.value = "$\x7b" ++ w.key ++ "\x7d" := by
  induction h with
  | nil => exact List.forall_mem_nil _
  | cons hfeeds _ ih => exact List.forall_mem_cons.mpr ⟨by rw [hfeeds.value, hfeeds.key], ih⟩

theorem Dispatched.Wired.value {d : Dispatched} {a : Access} {fields : List Field}
    (h : d.Wired a fields) : ∀ w ∈ d.fields, w.value = "$\x7b" ++ w.key ++ "\x7d" := by
  obtain ⟨_, _, -, -, hfed, -⟩ := h.taken
  exact value_of_feeds hfed

/-- The three JSON kinds are wired if their expressions read the fields. -/
theorem dispatchJson_wired {kind : ParserKind} {wrap : List Projection → Selection}
    {expr : Field → String} {a : Access} (hwrap : ∀ items, (wrap items).items = items)
    (hexpr : ∀ f, a.Reads f (expr f)) (fields : List Field) :
    (dispatchJson kind wrap expr fields).Wired a fields := by
  -- Fields and tags are fed each by their own part of the selection.
  have hfields : List.Forall₂ Projection.Feeds (fields.map fun f => ⟨expr f, f.name⟩)
      (fields.map Field.assignment) := by
    rw [List.forall₂_map_left_iff, List.forall₂_map_right_iff, List.forall₂_same]
    exact fun f _ => ⟨rfl, rfl⟩
  have htags : List.Forall₂ Projection.Feeds tagProjections
      (deviceTags.map fun tag => ⟨tag, placeholder tag, false⟩) := by
    rw [tagProjections, List.forall₂_map_left_iff, List.forall₂_map_right_iff, List.forall₂_same]
    exact fun tag _ => ⟨rfl, rfl⟩
  refine ⟨?_, ⟨_, tagProjections, hwrap _, ?_, hfields, htags, ?_⟩, ?_, ?_⟩
  · rw [dispatchJson, hwrap, List.map_append, map_name_eq_map_key hfields,
      map_name_eq_map_key htags]
  · rw [List.forall₂_map_right_iff, List.forall₂_same]
    exact fun f _ => ⟨rfl, hexpr f⟩
  · intro q hq
    obtain ⟨tag, -, rfl⟩ := List.mem_map.mp hq
    rfl
  · rw [dispatchJson, List.forall₂_map_right_iff, List.forall₂_same]
    exact fun f _ => f.writes_assignment
  · intro t ht
    obtain ⟨tag, -, rfl⟩ := List.mem_map.mp ht
    rfl

/-- The placeholder of a key of the payload. -/
theorem placeholder_payloadKey (key : String) :
    placeholder (payloadKey key) = "$\x7bpayload." ++ key ++ "\x7d" := by
  have hopen : "$\x7bpayload." = "$\x7b" ++ "payload." := by decide
  rw [placeholder, payloadKey, hopen, String.append_assoc, String.append_assoc, String.append_assoc,
    String.append_assoc]

theorem dispatchStruct_flat (fields : List Field) : (dispatchStruct fields).Flat fields where
  selection := rfl
  keys := by simp [dispatchStruct, gatewayFields, gatewayBattery, rssi, Function.comp_def]
  written := by
    intro w hw
    obtain ⟨name, -, rfl⟩ := List.mem_map.mp hw
    exact ⟨placeholder_payloadKey name, rfl, rfl⟩
  tagged := by
    intro t ht
    obtain rfl | ht := List.mem_cons.mp ht
    · exact ⟨rfl, _, placeholder_payloadKey _, .inr ⟨rfl, rfl⟩⟩
    · obtain ⟨tag, -, rfl⟩ := List.mem_map.mp ht
      exact ⟨rfl, _, placeholder_payloadKey _, .inl rfl⟩

/-- The value of a field is a placeholder of its key, or of that key of the payload. -/
theorem Parser.value_of_mem_fields {p : Parser} {w : Assignment} (hw : w ∈ p.dispatch.fields) :
    w.value = "$\x7b" ++ w.key ++ "\x7d" ∨ w.value = "$\x7bpayload." ++ w.key ++ "\x7d" := by
  cases p with
  | struct p => exact .inr ((dispatchStruct_flat p.fields).written w hw).1
  | jsonPayload p =>
    exact .inl ((dispatchJson_wired (fun _ => rfl) (Field.reads_payloadExpr p.useJq) _).value w hw)
  | jsonArray p =>
    exact .inl ((dispatchJson_wired (fun _ => rfl) Field.reads_elementExpr _).value w hw)
  | single fields =>
    exact .inl ((dispatchJson_wired (fun _ => rfl) (Field.reads_payloadExpr false) _).value w hw)

/-- How the selection and the writes of each kind of parser match. -/
inductive Parser.Matched : Parser → Dispatched → Prop
  | struct {p : StructParser} {d : Dispatched} : d.Flat p.fields → Matched (.struct p) d
  | jsonPayload {p : JsonPayloadParser} {d : Dispatched} {items : List Projection} :
    d.selection = .projections items →
      d.Wired (if p.useJq then .jq else .dotted)
        (p.fields ++ [⟨"gatewayBattery", some "gatewayBattery", some "integer"⟩]) →
      Matched (.jsonPayload p) d
  | jsonArray {p : JsonArrayParser} {d : Dispatched} {items : List Projection} :
    d.selection = .forEach ("payload." ++ p.arrayPath) "sample_item" items →
      d.Wired .element p.fields → Matched (.jsonArray p) d
  | single {fields : List Field} {d : Dispatched} {items : List Projection} :
    d.selection = .projections items → d.Wired .dotted fields → Matched (.single fields) d

/-- Whatever fields, paths and types are declared, each placeholder that is written stands for a
key of a payload that is selected whole, or for a projection: of the field itself under its path,
or of a tag. -/
theorem Parser.placeholders_selected (p : Parser) : p.Matched p.dispatch := by
  cases p with
  | struct p => exact .struct (dispatchStruct_flat p.fields)
  | jsonPayload p =>
    exact .jsonPayload rfl
      (dispatchJson_wired (fun _ => rfl) (Field.reads_payloadExpr p.useJq) _)
  | jsonArray p =>
    exact .jsonArray rfl (dispatchJson_wired (fun _ => rfl) Field.reads_elementExpr p.fields)
  | single fields =>
    exact .single rfl (dispatchJson_wired (fun _ => rfl) (Field.reads_payloadExpr false) fields)

/-- A JSON payload with a pulse under a path and all of the payload as a text. -/
def pulseParser : Parser :=
  .jsonPayload ⟨[⟨"hr", some "data.hr", some "integer"⟩, ⟨"raw", none, none⟩], true⟩

/-- The pulse is written as an integer from the projection of its name, and so is the telemetry that
is added to it. -/
theorem placeholders_selected_pulse :
    pulseParser.Matched pulseParser.dispatch ∧
    pulseParser.dispatch.fields.map Assignment.text =
      ["hr=$\x7bhr\x7di", "raw=$\x7braw\x7d", "gatewayBattery=$\x7bgatewayBattery\x7di"] ∧
    pulseParser.dispatch.tags.map Assignment.text = ["deviceAddress=$\x7bdeviceAddress\x7d",
      "deviceName=$\x7bdeviceName\x7d", "gatewayName=$\x7bgatewayName\x7d"] :=
  ⟨pulseParser.placeholders_selected, by decide +kernel, by decide +kernel⟩

example : pulseParser.dispatch.selection.sql "ms/hr" =
    "SELECT first(jq('.data.hr', payload)) as hr, payload as raw, " ++
      "first(jq('.gatewayBattery', payload)) as gatewayBattery, " ++
      "payload.deviceAddress as deviceAddress, payload.deviceName as deviceName, " ++
      "payload.gatewayName as gatewayName FROM \"ms/hr\"" := by
  decide +kernel

end Telemetry
