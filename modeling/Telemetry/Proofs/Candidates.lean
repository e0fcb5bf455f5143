import Telemetry.Proofs.Fields

/-!
# What makes a candidate a source

* `ParserSlots.InEffect`, `Parser.Sound`: the parser of a candidate, and what it needs.
* `Candidate.Yields`: which source a candidate makes; `Candidate.source?_eq_some_iff`: this is what
  its verdict says.
* `Parser.Sound.fields_ne_nil`, `Parser.Sound.path_of_forEach`: what a sound parser writes and what
  it goes through.
-/

namespace Telemetry

/-- The parser that is there and before which no other is. -/
inductive ParserSlots.InEffect (s : ParserSlots) : Parser → Prop
  | struct {p : StructParser} : s.struct = some p → InEffect s (.struct p)
  | jsonPayload {p : JsonPayloadParser} :
    s.struct = none → s.jsonPayload = some p → InEffect s (.jsonPayload p)
  | jsonArray {p : JsonArrayParser} :
    s.struct = none → s.jsonPayload = none → s.jsonArray = some p → InEffect s (.jsonArray p)
  | single {fields : List Field} :
    s.struct = none → s.jsonPayload = none → s.jsonArray = none → s.single = some fields →
      InEffect s (.single fields)

theorem ParserSlots.chosen_eq_some_iff {s : ParserSlots} {p : Parser} :
    s.chosen = some p ↔ s.InEffect p := by
  obtain ⟨struct, jsonPayload, jsonArray, single⟩ := s
  constructor
  · intro h
    cases struct with
    | some q => cases h; exact .struct rfl
    | none =>
    cases jsonPayload with
    | some q => cases h; exact .jsonPayload rfl rfl
    | none =>
    cases jsonArray with
    | some q => cases h; exact .jsonArray rfl rfl rfl
    | none =>
    cases single with
    | some q => cases h; exact .single rfl rfl rfl rfl
    | none => cases h
  · rintro (⟨rfl⟩ | ⟨rfl, rfl⟩ | ⟨rfl, rfl, rfl⟩ | ⟨rfl, rfl, rfl, rfl⟩) <;> rfl

/-- A parser from which something can be selected and written. -/
inductive Parser.Sound : Parser → Prop
  | struct (p : StructParser) : Sound (.struct p)
  | jsonPayload (p : JsonPayloadParser) : Sound (.jsonPayload p)
  | jsonArray {p : JsonArrayParser} :
    (∃ c ∈ p.arrayPath.toList, Text.isBlank c = false) → p.fields ≠ [] → Sound (.jsonArray p)
  | single {fields : List Field} : fields ≠ [] → Sound (.single fields)

theorem Text.isBlankText_eq_false_iff {s : String} :
    isBlankText s = false ↔ ∃ c ∈ s.toList, isBlank c = false := by
  simp [isBlankText]

theorem Parser.defect_eq_none_iff {p : Parser} : p.defect = none ↔ p.Sound := by
  cases p with
  | struct p => exact iff_of_true rfl (.struct p)
  | jsonPayload p => exact iff_of_true rfl (.jsonPayload p)
  | jsonArray p =>
    have h : (jsonArray p).defect = none ↔
        Text.isBlankText p.arrayPath = false ∧ p.fields ≠ [] := by
      by_cases hpath : Text.isBlankText p.arrayPath = true <;> simp [defect, hpath]
    rw [h, Text.isBlankText_eq_false_iff]
    constructor
    · rintro ⟨hpath, hfields⟩
      exact .jsonArray hpath hfields
    · rintro (_ | _ | ⟨hpath, hfields⟩ | _)
      exact ⟨hpath, hfields⟩
  | single fields =>
    have h : (single fields).defect = none ↔ fields ≠ [] := by simp [defect]
    rw [h]
    constructor
    · exact .single
    · rintro (_ | _ | _ | hfields)
      exact hfields

theorem measurementName_eq_some_iff {shortName name m : String} :
    measurementName shortName name = some m ↔
      sanitize shortName ≠ "" ∧ sanitize name ≠ "" ∧
        m = sanitize shortName ++ "_" ++ sanitize name := by
  unfold measurementName
  split <;> grind

/-- The candidate has a name and a topic, and a parser in effect that is sound; these make the
source. -/
structure Candidate.Yields (c : Candidate) (s : Source) : Prop where
  device : s.device = c.device
  branch : s.branch = c.branch
  name : s.name = c.name
  shortName_ne : sanitize c.device.shortName ≠ ""
  name_ne : sanitize c.name ≠ ""
  measurement : s.measurement = sanitize c.device.shortName ++ "_" ++ sanitize c.name
  topic : c.topic = some s.topic
  topic_ne : s.topic ≠ ""
  parser : c.parsers.InEffect s.parser
  sound : s.parser.Sound

theorem Candidate.topic?_eq_some_iff {c : Candidate} {topic : String} :
    c.topic? = some topic ↔ c.topic = some topic ∧ topic ≠ "" := by
  simp [topic?, Option.filter_eq_some_iff]

theorem Candidate.source?_eq_some_iff {c : Candidate} {s : Source} :
    c.verdict.source? = some s ↔ c.Yields s := by
  constructor
  · intro h
    unfold verdict at h
    split at h
    · cases h
    next measurement hmeasurement =>
    split at h
    · cases h
    next parser hparser =>
    split at h
    · cases h
    next topic htopic =>
    split at h
    · cases h
    next hdefect =>
    obtain rfl := Option.some.inj h
    obtain ⟨hshort, hname, rfl⟩ := measurementName_eq_some_iff.mp hmeasurement
    obtain ⟨htopic, hne⟩ := topic?_eq_some_iff.mp htopic
    exact ⟨rfl, rfl, rfl, hshort, hname, rfl, htopic, hne,
      ParserSlots.chosen_eq_some_iff.mp hparser, Parser.defect_eq_none_iff.mp hdefect⟩
  · rintro ⟨hdevice, hbranch, hname, hshort, hname_ne, hmeasurement, htopic, hne, hparser, hsound⟩
    obtain ⟨device, branch, name, measurement, topic, parser⟩ := s
    subst hdevice hbranch hname
    simp only [verdict, measurementName_eq_some_iff.mpr ⟨hshort, hname_ne, hmeasurement⟩,
      ParserSlots.chosen_eq_some_iff.mpr hparser, topic?_eq_some_iff.mpr ⟨htopic, hne⟩,
      Parser.defect_eq_none_iff.mpr hsound]
    rfl

/-- The measurement of a candidate's source is the name of the source. -/
theorem Candidate.Yields.measurementName_eq {c : Candidate} {s : Source} (h : c.Yields s) :
    measurementName s.device.shortName s.name = some s.measurement := by
  rw [h.device, h.name]
  exact measurementName_eq_some_iff.mpr ⟨h.shortName_ne, h.name_ne, h.measurement⟩

namespace Parser

variable {p : Parser}

/-- A sound parser writes a field: one that is declared, or telemetry of the gateway. -/
theorem Sound.fields_ne_nil (h : p.Sound) : p.dispatch.fields ≠ [] := by
  intro hnil
  have hkeys := p.keys_dispatch
  rw [hnil, List.map_nil] at hkeys
  obtain ⟨hdeclared, hgateway⟩ := List.append_eq_nil_iff.mp hkeys.symm
  cases h with
  | struct p => cases hgateway
  | jsonPayload p => cases hgateway
  | jsonArray hpath hfields => exact hfields (List.map_eq_nil_iff.mp hdeclared)
  | single hfields => exact hfields (List.map_eq_nil_iff.mp hdeclared)

/-- The array that a sound parser goes through has a path that is not blank. -/
theorem Sound.path_of_forEach (h : p.Sound) {array element : String} {items : List Projection}
    (hselection : p.dispatch.selection = .forEach array element items) :
    ∃ path, array = "payload." ++ path ∧ ∃ c ∈ path.toList, Text.isBlank c = false := by
  cases h with
  | struct p => cases hselection
  | jsonPayload p => cases hselection
  | jsonArray hpath hfields =>
    cases hselection
    exact ⟨_, rfl, hpath⟩
  | single hfields => cases hselection

end Parser

theorem CompleteExperiment.sound_of_mem {e : CompleteExperiment} {s : Source}
    (hs : s ∈ e.sources) : s.parser.Sound := by
  obtain ⟨c, -, hc⟩ := List.mem_filterMap.mp hs
  exact (Candidate.source?_eq_some_iff.mp hc).sound

end Telemetry
