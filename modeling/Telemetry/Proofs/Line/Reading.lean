import Telemetry.Proofs.Candidates
import Telemetry.Proofs.Dispatch
import Telemetry.Proofs.Line

/-!
# Reading a whole line back

Behind the first blank of a line stand its fields, which commas separate. The first equals sign of a
tag or a field separates its key from its value.

* `LineReading`: a line by its parts; `LineReading.text` spells it out.
* `readLine`: the measurement, the tags and the fields of a line.
* `Source.line`: the line that the action of a source writes; `Source.writeSyntax_eq`: it is written
  as it is spelled out.
* `LineTemplate.readLine_text`: a template is read back if its parts have no marks in wrong places.
* `Source.readLine_iff`: the line of a source is read back, and no field of it is nameless, exactly
  when the id of the experiment is solid and the names of the fields are keys.
-/

namespace Telemetry

/-- A tag or a field of a line; without an equals sign it has no value. -/
structure LineItem where
  key : String
  value : Option String
  deriving DecidableEq

/-- A line by its parts. -/
structure LineReading where
  measurement : String
  tags : List LineItem
  fields : List LineItem
  deriving DecidableEq

/-- An item as it is written: its key, and its value behind an equals sign. -/
def LineItem.text (x : LineItem) : String := x.key ++ x.value.elim "" ("=" ++ ·)

/-- A line as it is written: its measurement and its tags, a blank, and its fields, with a comma
between any two items. -/
def LineReading.text (line : LineReading) : String :=
  ",".intercalate (line.measurement :: line.tags.map LineItem.text) ++ " " ++
    ",".intercalate (line.fields.map LineItem.text)

/-- An item by its first equals sign. -/
def readItem (item : String) : LineItem where
  key := String.ofList (item.toList.takeWhile (· != '='))
  value := (item.toList.dropWhile (· != '=')).tail?.map String.ofList

/-- The fields of a line. -/
def fieldItems (line : String) : List String :=
  ((line.toList.dropWhile (· != ' ')).tail.splitOn ',').map String.ofList

/-- A line by its first blank, its commas and the equals signs. -/
def readLine (line : String) : LineReading where
  measurement := writtenMeasurement line
  tags := (seriesItems line).tail.map readItem
  fields := (fieldItems line).map readItem

/-- The item that an assignment means. -/
def Assignment.item (a : Assignment) : LineItem :=
  ⟨a.key, some (a.value ++ if a.integer then "i" else "")⟩

/-- The line that a template means. -/
def LineTemplate.line (t : LineTemplate) : LineReading :=
  ⟨t.measurement, t.tags.map Assignment.item, t.fields.map Assignment.item⟩

/-- The line that the action of a source writes. -/
def Source.line (s : Source) (experiment : String) : LineReading := (s.template experiment).line

/-- The name of a field is read as a key. -/
def IsKey (s : String) : Prop := s ≠ "" ∧ ',' ∉ s.toList ∧ '=' ∉ s.toList

instance (s : String) : Decidable (IsKey s) :=
  inferInstanceAs (Decidable (s ≠ "" ∧ ',' ∉ s.toList ∧ '=' ∉ s.toList))

/-! ## Every line -/

theorem notMem_key_readItem (item : String) : '=' ∉ (readItem item).key.toList := by
  rw [readItem, String.toList_ofList]
  exact notMem_takeWhile '=' _

/-- A character of the key of an item is one of the item. -/
theorem mem_of_mem_key_readItem {c : Char} {item : String} (h : c ∈ (readItem item).key.toList) :
    c ∈ item.toList := by
  rw [readItem, String.toList_ofList] at h
  exact List.takeWhile_subset _ h

/-- A character of the value of an item is one of the item. -/
theorem mem_of_mem_value_readItem {c : Char} {item value : String}
    (hvalue : (readItem item).value = some value) (h : c ∈ value.toList) : c ∈ item.toList := by
  obtain ⟨cs, hcs, rfl⟩ := Option.map_eq_some_iff.mp hvalue
  rw [String.toList_ofList] at h
  cases hrest : item.toList.dropWhile (· != '=') with
  | nil =>
    rw [hrest] at hcs
    cases hcs
  | cons mark rest =>
    rw [hrest] at hcs
    cases hcs
    have hc : c ∈ item.toList.dropWhile (· != '=') := by
      rw [hrest]
      exact .tail _ h
    exact List.dropWhile_subset _ hc

theorem solid_of_mem_seriesItems {line item : String} (h : item ∈ seriesItems line) :
    Solid item := by
  obtain ⟨piece, hpiece, rfl⟩ := List.mem_map.mp h
  obtain ⟨hcomma, hsub⟩ := notMem_of_mem_splitOn hpiece
  rw [Solid, String.toList_ofList]
  exact ⟨hcomma, fun hblank => notMem_takeWhile ' ' _ (hsub _ hblank)⟩

/-- No value of a tag has a comma or a blank. -/
theorem solid_of_mem_tags {line value : String} {x : LineItem} (h : x ∈ (readLine line).tags)
    (hvalue : x.value = some value) : Solid value := by
  obtain ⟨item, hitem, rfl⟩ := List.mem_map.mp h
  have hsolid := solid_of_mem_seriesItems (List.mem_of_mem_tail hitem)
  exact ⟨fun hc => hsolid.1 (mem_of_mem_value_readItem hvalue hc),
    fun hc => hsolid.2 (mem_of_mem_value_readItem hvalue hc)⟩

/-- No key of a field has a comma or an equals sign. -/
theorem notMem_of_mem_fields {line : String} {x : LineItem} (h : x ∈ (readLine line).fields) :
    ',' ∉ x.key.toList ∧ '=' ∉ x.key.toList := by
  obtain ⟨item, hitem, rfl⟩ := List.mem_map.mp h
  obtain ⟨piece, hpiece, rfl⟩ := List.mem_map.mp hitem
  refine ⟨fun hc => (notMem_of_mem_splitOn hpiece).1 ?_, notMem_key_readItem _⟩
  simpa using mem_of_mem_key_readItem hc

/-! ## Lines of templates -/

theorem Assignment.text_item (a : Assignment) : a.item.text = a.text := by
  simp [item, LineItem.text, text, String.append_assoc]

/-- A template has the text of the line that it means. -/
theorem LineTemplate.text_line (t : LineTemplate) : t.line.text = t.text := by
  have hitems : ∀ as : List Assignment, (as.map Assignment.item).map LineItem.text =
      as.map Assignment.text := fun as => by
    rw [List.map_map]
    exact List.map_congr_left fun a _ => a.text_item
  simp only [LineReading.text, line, hitems, text, series, joinTexts]

/-- An assignment is read back if its key has no equals sign. -/
theorem readItem_text {a : Assignment} (h : '=' ∉ a.key.toList) : readItem a.text = a.item := by
  have htext : a.text.toList =
      a.key.toList ++ '=' :: (a.value ++ if a.integer then "i" else "").toList := by
    simp [Assignment.text, String.append_assoc]
  rw [readItem, htext, takeWhile_mark h, dropWhile_mark h, List.tail?_cons, Option.map_some,
    String.ofList_toList, String.ofList_toList]
  rfl

theorem map_readItem_text {as : List Assignment} (h : ∀ a ∈ as, '=' ∉ a.key.toList) :
    (as.map Assignment.text).map readItem = as.map Assignment.item := by
  rw [List.map_map]
  exact List.map_congr_left fun a ha => readItem_text (h a ha)

namespace LineTemplate

variable {t : LineTemplate}

theorem fieldItems_text (hm : Solid t.measurement) (ht : ∀ a ∈ t.tags, Solid a.text)
    (hne : t.fields ≠ []) (hf : ∀ a ∈ t.fields, ',' ∉ a.text.toList) :
    fieldItems t.text = t.fields.map Assignment.text := by
  rw [fieldItems, toList_text, dropWhile_mark (blank_notMem_series hm ht), List.tail_cons,
    splitOn_joinTexts (by simpa using hne) (List.forall_mem_map.mpr hf)]

/-- A template is read back if nothing in it looks like a mark that is none. -/
theorem readLine_text (hm : Solid t.measurement)
    (ht : ∀ a ∈ t.tags, Solid a.text ∧ '=' ∉ a.key.toList) (hne : t.fields ≠ [])
    (hf : ∀ a ∈ t.fields, ',' ∉ a.text.toList ∧ '=' ∉ a.key.toList) :
    readLine t.text =
      ⟨t.measurement, t.tags.map Assignment.item, t.fields.map Assignment.item⟩ := by
  rw [readLine, writtenMeasurement, seriesItems_text hm fun a ha => (ht a ha).1,
    fieldItems_text hm (fun a ha => (ht a ha).1) hne fun a ha => (hf a ha).1, List.headD_cons,
    List.tail_cons, map_readItem_text fun a ha => (ht a ha).2,
    map_readItem_text fun a ha => (hf a ha).2]

end LineTemplate

/-! ## Lines of sources -/

/-- All that a parser writes has a key that can be read, if the names that are declared can. -/
theorem Parser.isKey_iff (p : Parser) :
    (∀ a ∈ p.dispatch.fields, IsKey a.key) ↔ ∀ f ∈ p.fields, IsKey f.name := by
  have hgateway : ∀ key ∈ p.kind.gatewayFields, IsKey key := by
    cases p.kind <;> decide
  calc (∀ a ∈ p.dispatch.fields, IsKey a.key)
      ↔ ∀ key ∈ p.dispatch.fields.map Assignment.key, IsKey key := by simp
    _ ↔ ∀ key ∈ p.fields.map Field.name ++ p.kind.gatewayFields, IsKey key := by
        rw [p.keys_dispatch]
    _ ↔ ∀ f ∈ p.fields, IsKey f.name := by
        rw [List.forall_mem_append, and_iff_left hgateway, List.forall_mem_map]

/-- What is written for a field has no comma but those of its key. -/
theorem Parser.comma_notMem_text {p : Parser} {a : Assignment} (ha : a ∈ p.dispatch.fields)
    (hkey : ',' ∉ a.key.toList) : ',' ∉ a.text.toList := by
  have hvalue : ',' ∉ a.value.toList := by
    obtain h | h := p.value_of_mem_fields ha
    · simp [h, hkey]
    · simp [h, hkey]
  cases hinteger : a.integer <;> simp [Assignment.text, hkey, hvalue, hinteger]

namespace Source

/-- No key of a tag has an equals sign. -/
theorem equals_notMem_tags (s : Source) (id : String) :
    ∀ a ∈ experimentTags id ++ s.dispatch.tags, '=' ∉ a.key.toList := by
  refine List.forall_mem_append.mpr ⟨?_, s.parser.forall_mem_tags (by decide) (by decide)⟩
  unfold experimentTags
  split
  · exact List.forall_mem_nil _
  · exact List.forall_mem_singleton.mpr (by decide : '=' ∉ "experimentId".toList)

/-- The action of a source writes the line of the source. -/
theorem writeSyntax_eq (s : Source) (experiment : String) (p : NamingPolicy) :
    (s.route experiment p).action.writeSyntax = (s.line experiment).text :=
  (s.template experiment).text_line.symm

/-- What is written for a field has a value. -/
theorem isSome_value_line (s : Source) (experiment : String) :
    ∀ item ∈ (s.line experiment).fields, item.value.isSome :=
  List.forall_mem_map.mpr fun _ _ => rfl

variable {e : CompleteExperiment} {s : Source}

/-- With a solid id and names that are keys the line of a source is read back. -/
theorem readLine_template (hs : s ∈ e.sources) (hid : Solid e.id)
    (hnames : ∀ f ∈ s.parser.fields, IsKey f.name) :
    readLine (s.template e.id).text = ⟨s.measurement,
      (experimentTags e.id ++ s.dispatch.tags).map Assignment.item,
      s.dispatch.fields.map Assignment.item⟩ := by
  have hkeys := s.parser.isKey_iff.mpr hnames
  refine LineTemplate.readLine_text (solid_measurement hs)
    (fun a ha => ⟨s.solid_tags hid a ha, s.equals_notMem_tags e.id a ha⟩)
    (CompleteExperiment.sound_of_mem hs).fields_ne_nil fun a ha => ?_
  obtain ⟨-, hcomma, hequals⟩ := hkeys a ha
  exact ⟨Parser.comma_notMem_text ha hcomma, hequals⟩

/-- The line that the route of a source writes is read back as the measurement, the tags and the
fields of which it is made, and no field of it is nameless, if and only if the id of the experiment
has neither commas nor blanks and each declared field has a name without commas and equals signs. -/
theorem line_read_back_iff (hs : s ∈ e.sources) (p : NamingPolicy) :
    (readLine (s.route e.id p).action.writeSyntax = ⟨s.measurement,
        (experimentTags e.id ++ s.dispatch.tags).map Assignment.item,
        s.dispatch.fields.map Assignment.item⟩ ∧
      ∀ a ∈ s.dispatch.fields, a.key ≠ "") ↔
    Solid e.id ∧ ∀ f ∈ s.parser.fields, IsKey f.name := by
  constructor
  · rintro ⟨hread, hnamed⟩
    -- Whatever line is read, what is found in its tags is solid, and no key has a mark.
    constructor
    · by_cases hid : e.id = ""
      · rw [hid]
        decide
      · have htag : Assignment.item ⟨"experimentId", e.id, false⟩ ∈
            (readLine (s.route e.id p).action.writeSyntax).tags := by
          rw [hread, experimentTags, if_neg hid]
          exact .head _
        exact solid_of_mem_tags htag (by simp [Assignment.item])
    · refine s.parser.isKey_iff.mp fun a ha => ⟨hnamed a ha, ?_⟩
      have hfield : a.item ∈ (readLine (s.route e.id p).action.writeSyntax).fields := by
        rw [hread]
        exact List.mem_map_of_mem ha
      exact notMem_of_mem_fields hfield
  · rintro ⟨hid, hnames⟩
    exact ⟨readLine_template hs hid hnames,
      fun a ha => (s.parser.isKey_iff.mpr hnames a ha).1⟩

end Source

/-- An experiment with one device, which has one characteristic with some single measurements. -/
def airExperiment (fields : List Field) : CompleteExperiment where
  id := "650000000000000000000001"
  description := ""
  devices := [{
    slot := "sensor_0"
    sensorId := "650000000000000000000002"
    name := "Tag"
    shortName := "tag"
    address := "AA:01"
    services := [⟨"env", [⟨"Air", "", { single := some fields }, some "t/air"⟩]⟩]
    whiteboard := [] }]

/-- The route of a temperature, whose name even has a blank. -/
theorem line_read_back_iff_air :
    ∃ s ∈ (airExperiment [⟨"air t", some "t", none⟩]).sources,
      (readLine (s.route "650000000000000000000001" .standard).action.writeSyntax).fields =
        [⟨"air t", some "$\x7bair t\x7d"⟩] := by
  have hs : (⟨(airExperiment [⟨"air t", some "t", none⟩]).devices.head (by decide),
      .structured "env", "Air", "tag_air", "t/air", .single [⟨"air t", some "t", none⟩]⟩ : Source) ∈
        (airExperiment [⟨"air t", some "t", none⟩]).sources := by decide +kernel
  refine ⟨_, hs, ?_⟩
  obtain ⟨hread, -⟩ := (Source.line_read_back_iff hs .standard).mpr (by decide)
  exact congrArg LineReading.fields hread

/-- A nameless measurement is no defect of a parser, but what is written for it has no key. -/
theorem airExperiment_nameless :
    ∃ s ∈ (airExperiment [⟨"", none, none⟩]).sources, s.parser.defect = none ∧
      (readLine (s.route "650000000000000000000001" .standard).action.writeSyntax).fields =
        [⟨"", some "$\x7b\x7d"⟩] := by
  decide +kernel

end Telemetry
