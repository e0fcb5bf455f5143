import Mathlib.Data.List.Basic
import Telemetry.Proofs.Naming
import Telemetry.Proofs.Separated

/-!
# Reading a line template back

The first blank of a line ends its series, which commas separate into the measurement and the tags.

* `writtenMeasurement`, `tagValue?`: the measurement and a tag of a line, as they are read there.
* `LineTemplate.writtenMeasurement_text`: a measurement is read back if it has neither commas nor
  blanks.
* `LineTemplate.seriesItems_text`: a template is read back if its parts have neither commas nor
  blanks.
* `Source.writtenMeasurement_eq`, `Source.experimentTag_eq`: what is read in the line of a source.
-/

namespace Telemetry

/-- The measurement and the tags of a line. -/
def seriesItems (line : String) : List String :=
  ((line.toList.takeWhile (· != ' ')).splitOn ',').map String.ofList

/-- The measurement that a line writes. -/
def writtenMeasurement (line : String) : String := (seriesItems line).headD ""

/-- The value of an item with a key. -/
def itemValue? (key item : String) : Option String :=
  (item.toList.dropPrefix? (key ++ "=").toList).map String.ofList

/-- The value of a tag of a line. -/
def tagValue? (key line : String) : Option String :=
  (seriesItems line).tail.findSome? (itemValue? key)

/-- A text that is read as one item. -/
def Solid (s : String) : Prop := ',' ∉ s.toList ∧ ' ' ∉ s.toList

instance (s : String) : Decidable (Solid s) :=
  inferInstanceAs (Decidable (',' ∉ s.toList ∧ ' ' ∉ s.toList))

/-- Plain characters make one item. -/
theorem solid_of_forall_isPlain {s : String} (h : ∀ c ∈ s.toList, isPlain c = true) : Solid s :=
  ⟨fun hc => absurd (h _ hc) (by decide), fun hc => absurd (h _ hc) (by decide)⟩

theorem Solid.append {s t : String} (hs : Solid s) (ht : Solid t) : Solid (s ++ t) := by
  simp only [Solid, String.toList_append, List.mem_append, not_or]
  exact ⟨⟨hs.1, ht.1⟩, hs.2, ht.2⟩

/-- A character that is neither in the separator nor in the texts is not in the joined text. -/
theorem notMem_joinTexts {c : Char} {separator : String} {texts : List String}
    (hs : c ∉ separator.toList) (ht : ∀ t ∈ texts, c ∉ t.toList) :
    c ∉ (joinTexts separator texts).toList := by
  rw [joinTexts, String.toList_intercalate]
  induction texts with
  | nil => simp
  | cons t texts ih =>
    obtain ⟨hfirst, htexts⟩ := List.forall_mem_cons.mp ht
    cases texts with
    | nil => simpa using hfirst
    | cons t' texts =>
      rw [List.map_cons, List.map_cons, List.intercalate_cons_cons, ← List.map_cons]
      simp only [List.mem_append, not_or]
      exact ⟨⟨hfirst, hs⟩, ih htexts⟩

/-- Texts without commas are what stands between the commas of their join. -/
theorem splitOn_joinTexts {texts : List String} (hne : texts ≠ [])
    (h : ∀ t ∈ texts, ',' ∉ t.toList) :
    ((joinTexts "," texts).toList.splitOn ',').map String.ofList = texts := by
  have hcomma : ∀ l ∈ texts.map String.toList, ',' ∉ l := List.forall_mem_map.mpr h
  have hjoin : (joinTexts "," texts).toList = [','].intercalate (texts.map String.toList) := by
    rw [joinTexts, String.toList_intercalate]
    rfl
  rw [hjoin, List.splitOn_intercalate _ hcomma (by simpa using hne), List.map_map]
  simp [Function.comp_def]

/-- The value of the item that an assignment writes. -/
theorem itemValue?_text (key value : String) :
    itemValue? key (Assignment.text ⟨key, value, false⟩) = some value := by
  have htext : (Assignment.text ⟨key, value, false⟩).toList =
      (key ++ "=").toList ++ value.toList := by
    simp [Assignment.text]
  rw [itemValue?, htext, List.dropPrefix?_append_of_beq _ (by simp), Option.map_some,
    String.ofList_toList]

namespace LineTemplate

/-- The series of a template has no blank if its parts have none. -/
theorem blank_notMem_series {t : LineTemplate} (hm : Solid t.measurement)
    (ht : ∀ a ∈ t.tags, Solid a.text) : ' ' ∉ t.series.toList := by
  refine notMem_joinTexts (by decide) ?_
  simp only [List.forall_mem_cons, List.forall_mem_map]
  exact ⟨hm.2, fun a ha => (ht a ha).2⟩

theorem toList_text (t : LineTemplate) : t.text.toList =
    t.series.toList ++ ' ' :: (joinTexts "," (t.fields.map Assignment.text)).toList := by
  simp [text]

/-- A measurement ends at a comma or at the first blank, whatever follows it. -/
theorem writtenMeasurement_text {t : LineTemplate} (hm : Solid t.measurement) :
    writtenMeasurement t.text = t.measurement := by
  rw [writtenMeasurement, seriesItems, toList_text, series, joinTexts, String.toList_intercalate,
    List.map_cons]
  cases t.tags with
  | nil =>
    rw [List.map_nil, List.map_nil, List.intercalate_singleton, takeWhile_mark hm.2,
      List.splitOn_eq_singleton hm.1, List.map_cons, List.headD_cons, String.ofList_toList]
  | cons a tags =>
    have hcomma : ",".toList = [','] := rfl
    rw [List.map_cons, List.map_cons, List.intercalate_cons_cons, hcomma, List.append_assoc,
      List.append_assoc, List.takeWhile_append_of_pos (forall_ne_mark hm.2), List.singleton_append,
      List.takeWhile_cons_of_pos (by decide), List.splitOn_append_cons_self_of_not_mem hm.1,
      List.map_cons, List.headD_cons, String.ofList_toList]

/-- A template is read back if its parts have neither commas nor blanks. -/
theorem seriesItems_text {t : LineTemplate} (hm : Solid t.measurement)
    (ht : ∀ a ∈ t.tags, Solid a.text) :
    seriesItems t.text = t.measurement :: t.tags.map Assignment.text := by
  have hcomma : ∀ item ∈ t.measurement :: t.tags.map Assignment.text, ',' ∉ item.toList := by
    simp only [List.forall_mem_cons, List.forall_mem_map]
    exact ⟨hm.1, fun a ha => (ht a ha).1⟩
  rw [seriesItems, toList_text, takeWhile_mark (blank_notMem_series hm ht), series,
    splitOn_joinTexts (by simp) hcomma]

end LineTemplate

/-- The tags depend on no more of a parser than whether it is for structs. -/
theorem Parser.forall_mem_tags (p : Parser) {P : Assignment → Prop}
    (hstruct : ∀ a ∈ (dispatchStruct []).tags, P a)
    (hjson : ∀ a ∈ (dispatchJson .single .projections (Field.payloadExpr false) []).tags, P a) :
    ∀ a ∈ p.dispatch.tags, P a := by
  cases p with
  | struct p => exact hstruct
  | jsonPayload p => exact hjson
  | jsonArray p => exact hjson
  | single fields => exact hjson

namespace Source

/-- A measurement is read as one item. -/
theorem solid_measurement {e : CompleteExperiment} {s : Source} (hs : s ∈ e.sources) :
    Solid s.measurement := by
  obtain ⟨-, -, hmeasurement⟩ := measurementName_eq_some_iff.mp (e.measurementName_eq hs)
  have hsanitize : ∀ t, Solid (sanitize t) := fun t =>
    solid_of_forall_isPlain fun _ => isPlain_of_mem_sanitize
  rw [hmeasurement]
  exact ((hsanitize _).append (by decide)).append (hsanitize _)

/-- The tags that every payload carries are read as items. -/
theorem solid_dispatch_tags (s : Source) : ∀ a ∈ s.dispatch.tags, Solid a.text :=
  s.parser.forall_mem_tags (by decide) (by decide)

/-- With a solid id the tag of the experiment is read as an item, too. -/
theorem solid_tags (s : Source) {id : String} (hid : Solid id) :
    ∀ a ∈ experimentTags id ++ s.dispatch.tags, Solid a.text := by
  refine List.forall_mem_append.mpr ⟨?_, s.solid_dispatch_tags⟩
  unfold experimentTags
  split
  · exact List.forall_mem_nil _
  · have htext : Assignment.text ⟨"experimentId", id, false⟩ = "experimentId=" ++ id := by
      simp [Assignment.text]
    rw [List.forall_mem_singleton, htext]
    exact Solid.append (by decide) hid

/-- The items of the line of a source whose experiment has a solid id. -/
theorem seriesItems_template {e : CompleteExperiment} {s : Source} (hs : s ∈ e.sources)
    (hid : Solid e.id) :
    seriesItems (s.template e.id).text =
      s.measurement :: (experimentTags e.id ++ s.dispatch.tags).map Assignment.text :=
  LineTemplate.seriesItems_text (solid_measurement hs) (s.solid_tags hid)

/-- The line of a source writes its measurement. -/
theorem writtenMeasurement_eq {e : CompleteExperiment} {s : Source} (hs : s ∈ e.sources)
    (id : String) : writtenMeasurement (s.template id).text = s.measurement :=
  LineTemplate.writtenMeasurement_text (solid_measurement hs)

/-- The line of a source is tagged with the id of its experiment. -/
theorem experimentTag_eq {e : CompleteExperiment} {s : Source} (hs : s ∈ e.sources)
    (hid : Solid e.id) (hne : e.id ≠ "") :
    tagValue? "experimentId" (s.template e.id).text = some e.id := by
  rw [tagValue?, seriesItems_template hs hid, List.tail_cons, experimentTags, if_neg hne,
    List.singleton_append, List.map_cons, List.findSome?_cons, itemValue?_text]

end Source

end Telemetry
