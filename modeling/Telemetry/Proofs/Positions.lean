import Mathlib.Data.List.Basic
import Telemetry.Proofs.Line.Reading

/-!
# Where sources stand

* `Position`, `Position.Before`: where a candidate stands in an experiment, and the order of a
  document.
* `CompleteExperiment.at?`: the candidate at a position; `CompleteExperiment.placed`: all candidates
  with their positions.
* `CompleteExperiment.placedSources`: the sources of an experiment with their positions;
  `CompleteExperiment.routesBeside`: the routes of all devices but one.
* `CompleteExperiment.sources_placed`: each position with a usable candidate gives one source, and
  no other position gives one; and what becomes of one device leaves the routes of the others as
  they are.
-/

namespace Telemetry

/-- Where a candidate stands in an experiment: the numbers of its device, of the service of the
device and of the characteristic of the service, or of its device and of the measure. -/
inductive Position where
  | characteristic (device service index : Nat)
  | measure (device index : Nat)
  deriving DecidableEq

namespace Position

/-- The number of the device. -/
def device : Position → Nat
  | characteristic i _ _ => i
  | measure i _ => i

/-- The order of a document, but all characteristics stand before all measures. -/
inductive Before : Position → Position → Prop
  | device {i i' : Nat} (j j' k k' : Nat) :
    i < i' → Before (.characteristic i j k) (.characteristic i' j' k')
  | service (i : Nat) {j j' : Nat} (k k' : Nat) :
    j < j' → Before (.characteristic i j k) (.characteristic i j' k')
  | index (i j : Nat) {k k' : Nat} :
    k < k' → Before (.characteristic i j k) (.characteristic i j k')
  | kind (i j k i' k' : Nat) : Before (.characteristic i j k) (.measure i' k')
  | measureDevice {i i' : Nat} (k k' : Nat) : i < i' → Before (.measure i k) (.measure i' k')
  | measureIndex (i : Nat) {k k' : Nat} : k < k' → Before (.measure i k) (.measure i k')

theorem Before.ne {p q : Position} (h : p.Before q) : p ≠ q := by
  rintro rfl
  cases h <;> omega

end Position

/-- What stands at a position of an experiment. -/
def CompleteExperiment.at? (e : CompleteExperiment) : Position → Option Candidate
  | .characteristic i j k => do
    let d ← e.devices[i]?
    let s ← d.services[j]?
    let c ← s.characteristics[k]?
    return ⟨d, .structured s.uuid, c.name, c.mqttTopic, c.parsers⟩
  | .measure i k => do
    let d ← e.devices[i]?
    let m ← d.whiteboard[k]?
    return ⟨d, .whiteboard, m.name, some m.mqttTopic, m.parsers⟩

/-! ## Numbered items -/

theorem pairwise_zipIdx {α : Type} (xs : List α) : xs.zipIdx.Pairwise (·.2 < ·.2) := by
  have h : (xs.zipIdx.map Prod.snd).Pairwise (· < ·) := by
    rw [List.zipIdx_map_snd]
    exact List.pairwise_lt_range' 1
  exact List.pairwise_map.mp h

theorem flatMap_zipIdx {α β : Type} (f : α → List β) (xs : List α) :
    (xs.zipIdx.flatMap fun x => f x.1) = xs.flatMap f := by
  rw [← List.flatMap_map, List.zipIdx_map_fst]

theorem map_zipIdx {α β : Type} (f : α → β) (xs : List α) :
    (xs.zipIdx.map fun x => f x.1) = xs.map f := by
  conv => rhs; rw [← List.zipIdx_map_fst 0 xs, List.map_map]
  rfl

theorem flatMap_filter {α β : Type} (p : α → Bool) (f : α → List β) (xs : List α) :
    (xs.filter p).flatMap f = xs.flatMap fun x => if p x then f x else [] := by
  induction xs with
  | nil => rfl
  | cons x xs ih => by_cases h : p x <;> simp [h, ih]

/-- Without the item of one number, the numbered items are those of the list without it. -/
theorem map_filter_zipIdx {α : Type} (xs : List α) (i start : Nat) :
    ((xs.zipIdx start).filter (·.2 != start + i)).map Prod.fst = xs.eraseIdx i := by
  induction xs generalizing i start with
  | nil => rfl
  | cons x xs ih =>
    cases i with
    | zero =>
      have hothers : ∀ y ∈ xs.zipIdx (start + 1), (y.2 != start + 0) = true := by
        intro y hy
        have := List.le_snd_of_mem_zipIdx hy
        simp; omega
      rw [List.zipIdx_cons, List.filter_cons_of_neg (by simp), List.filter_eq_self.mpr hothers,
        List.zipIdx_map_fst, List.eraseIdx_cons_zero]
    | succ i =>
      have hnumber : start + (i + 1) = start + 1 + i := by omega
      rw [List.zipIdx_cons, List.filter_cons_of_pos (by simp), List.map_cons, hnumber, ih,
        List.eraseIdx_cons_succ]

/-! ## Candidates with their positions -/

namespace CompleteDevice

/-- The characteristics of the device with a number. -/
def placedCharacteristics (d : CompleteDevice) (i : Nat) : List (Position × Candidate) :=
  d.services.zipIdx.flatMap fun (s, j) => s.characteristics.zipIdx.map fun (c, k) =>
    (.characteristic i j k, ⟨d, .structured s.uuid, c.name, c.mqttTopic, c.parsers⟩)

/-- The measures of the device with a number. -/
def placedMeasures (d : CompleteDevice) (i : Nat) : List (Position × Candidate) :=
  d.whiteboard.zipIdx.map fun (m, k) =>
    (.measure i k, ⟨d, .whiteboard, m.name, some m.mqttTopic, m.parsers⟩)

theorem map_snd_placedCharacteristics (d : CompleteDevice) (i : Nat) :
    (d.placedCharacteristics i).map Prod.snd = d.characteristics := by
  rw [placedCharacteristics, List.map_flatMap]
  simp only [List.map_map, Function.comp_def]
  refine Eq.trans ?_ (flatMap_zipIdx _ _)
  exact List.flatMap_congr fun s _ => map_zipIdx (fun c : Characteristic =>
    (⟨d, .structured s.1.uuid, c.name, c.mqttTopic, c.parsers⟩ : Candidate)) _

theorem map_snd_placedMeasures (d : CompleteDevice) (i : Nat) :
    (d.placedMeasures i).map Prod.snd = d.measures := by
  rw [placedMeasures, List.map_map]
  exact map_zipIdx (fun m : WhiteboardMeasure =>
    (⟨d, .whiteboard, m.name, some m.mqttTopic, m.parsers⟩ : Candidate)) _

theorem mem_placedCharacteristics {d : CompleteDevice} {i : Nat} {x : Position × Candidate} :
    x ∈ d.placedCharacteristics i ↔ ∃ j k s c, d.services[j]? = some s ∧
      s.characteristics[k]? = some c ∧
      x = (.characteristic i j k, ⟨d, .structured s.uuid, c.name, c.mqttTopic, c.parsers⟩) := by
  simp only [placedCharacteristics, List.mem_flatMap, List.mem_map, List.mem_zipIdx_iff_getElem?,
    Prod.exists]
  grind

theorem mem_placedMeasures {d : CompleteDevice} {i : Nat} {x : Position × Candidate} :
    x ∈ d.placedMeasures i ↔ ∃ k m, d.whiteboard[k]? = some m ∧
      x = (.measure i k, ⟨d, .whiteboard, m.name, some m.mqttTopic, m.parsers⟩) := by
  simp only [placedMeasures, List.mem_map, List.mem_zipIdx_iff_getElem?, Prod.exists]
  grind

theorem pairwise_placedCharacteristics (d : CompleteDevice) (i : Nat) :
    (d.placedCharacteristics i).Pairwise (·.1.Before ·.1) := by
  rw [placedCharacteristics, List.pairwise_flatMap]
  refine ⟨fun (s, j) _ => ?_, (pairwise_zipIdx _).imp fun {s t} hlt x hx y hy => ?_⟩
  · rw [List.pairwise_map]
    exact (pairwise_zipIdx _).imp fun hlt => .index i j hlt
  · obtain ⟨c, -, rfl⟩ := List.mem_map.mp hx
    obtain ⟨c', -, rfl⟩ := List.mem_map.mp hy
    exact .service i _ _ hlt

theorem pairwise_placedMeasures (d : CompleteDevice) (i : Nat) :
    (d.placedMeasures i).Pairwise (·.1.Before ·.1) := by
  rw [placedMeasures, List.pairwise_map]
  exact (pairwise_zipIdx _).imp fun hlt => .measureIndex i hlt

end CompleteDevice

/-- What the devices of an experiment have of one kind, numbered by device. -/
def placedBy (f : CompleteDevice → Nat → List (Position × Candidate)) (ds : List CompleteDevice) :
    List (Position × Candidate) :=
  ds.zipIdx.flatMap fun (d, i) => f d i

section

variable {f : CompleteDevice → Nat → List (Position × Candidate)}
  {g : CompleteDevice → List Candidate} (hsnd : ∀ d i, (f d i).map Prod.snd = g d)

include hsnd

theorem map_snd_placedBy (ds : List CompleteDevice) :
    (placedBy f ds).map Prod.snd = ds.flatMap g := by
  rw [placedBy, List.map_flatMap]
  simp only [hsnd]
  exact flatMap_zipIdx g ds

/-- What stands at the positions of the other devices is what the other devices have. -/
theorem map_snd_filter_placedBy (hdevice : ∀ d i, ∀ x ∈ f d i, x.1.device = i)
    (ds : List CompleteDevice) (i : Nat) :
    ((placedBy f ds).filter (·.1.device != i)).map Prod.snd = (ds.eraseIdx i).flatMap g := by
  have hfilter : ∀ x : CompleteDevice × Nat, ((f x.1 x.2).filter (·.1.device != i)).map Prod.snd =
      if x.2 != i then g x.1 else [] := by
    intro x
    split
    · next hne =>
      rw [List.filter_eq_self.mpr fun y hy => by rw [hdevice _ _ y hy]; exact hne, hsnd]
    · next heq =>
      rw [List.filter_eq_nil_iff.mpr fun y hy => by rw [hdevice _ _ y hy]; exact heq]
      rfl
  have herase := map_filter_zipIdx ds i 0
  rw [Nat.zero_add] at herase
  rw [← herase, List.flatMap_map, flatMap_filter, placedBy, List.filter_flatMap, List.map_flatMap]
  simp only [hfilter]

end

namespace CompleteExperiment

/-- The candidates of an experiment with their positions. -/
def placed (e : CompleteExperiment) : List (Position × Candidate) :=
  placedBy CompleteDevice.placedCharacteristics e.devices ++
    placedBy CompleteDevice.placedMeasures e.devices

theorem map_snd_placed (e : CompleteExperiment) : e.placed.map Prod.snd = e.candidates := by
  rw [placed, List.map_append, map_snd_placedBy CompleteDevice.map_snd_placedCharacteristics,
    map_snd_placedBy CompleteDevice.map_snd_placedMeasures]
  rfl

theorem mem_placed {e : CompleteExperiment} {pos : Position} {c : Candidate} :
    (pos, c) ∈ e.placed ↔ e.at? pos = some c := by
  simp only [placed, placedBy, List.mem_append, List.mem_flatMap, Prod.exists,
    List.mem_zipIdx_iff_getElem?, CompleteDevice.mem_placedCharacteristics,
    CompleteDevice.mem_placedMeasures]
  cases pos with
  | characteristic i j k => simp [at?, Option.bind_eq_some_iff]; grind
  | measure i k => simp [at?, Option.bind_eq_some_iff]; grind

theorem pairwise_placed (e : CompleteExperiment) : e.placed.Pairwise (·.1.Before ·.1) := by
  rw [placed, List.pairwise_append]
  refine ⟨?_, ?_, fun x hx y hy => ?_⟩
  · rw [placedBy, List.pairwise_flatMap]
    refine ⟨fun (d, i) _ => d.pairwise_placedCharacteristics i,
      (pairwise_zipIdx _).imp fun hlt x hx y hy => ?_⟩
    obtain ⟨j, k, _, _, -, -, rfl⟩ := CompleteDevice.mem_placedCharacteristics.mp hx
    obtain ⟨j', k', _, _, -, -, rfl⟩ := CompleteDevice.mem_placedCharacteristics.mp hy
    exact .device j j' k k' hlt
  · rw [placedBy, List.pairwise_flatMap]
    refine ⟨fun (d, i) _ => d.pairwise_placedMeasures i,
      (pairwise_zipIdx _).imp fun hlt x hx y hy => ?_⟩
    obtain ⟨k, _, -, rfl⟩ := CompleteDevice.mem_placedMeasures.mp hx
    obtain ⟨k', _, -, rfl⟩ := CompleteDevice.mem_placedMeasures.mp hy
    exact .measureDevice k k' hlt
  · obtain ⟨_, -, hx⟩ := List.mem_flatMap.mp hx
    obtain ⟨_, -, hy⟩ := List.mem_flatMap.mp hy
    obtain ⟨j, k, _, _, -, -, rfl⟩ := CompleteDevice.mem_placedCharacteristics.mp hx
    obtain ⟨k', _, -, rfl⟩ := CompleteDevice.mem_placedMeasures.mp hy
    exact .kind _ j k _ k'

/-! ## Sources with their positions -/

/-- The sources of an experiment with their positions. -/
def placedSources (e : CompleteExperiment) : List (Position × Source) :=
  e.placed.filterMap fun x => x.2.verdict.source?.map fun s => (x.1, s)

theorem map_snd_placedSources (e : CompleteExperiment) :
    e.placedSources.map Prod.snd = e.sources := by
  rw [placedSources, List.map_filterMap, sources, ← e.map_snd_placed, List.filterMap_map]
  simp only [Option.map_map, Function.comp_def, Option.map_id']

theorem mem_placedSources {e : CompleteExperiment} {pos : Position} {s : Source} :
    (pos, s) ∈ e.placedSources ↔ ∃ c, e.at? pos = some c ∧ c.Yields s := by
  rw [placedSources, List.mem_filterMap]
  constructor
  · rintro ⟨⟨pos', c⟩, hc, hs⟩
    obtain ⟨s', hs, heq⟩ := Option.map_eq_some_iff.mp hs
    cases heq
    exact ⟨c, mem_placed.mp hc, Candidate.source?_eq_some_iff.mp hs⟩
  · rintro ⟨c, hc, hs⟩
    exact ⟨(pos, c), mem_placed.mpr hc,
      Option.map_eq_some_iff.mpr ⟨s, Candidate.source?_eq_some_iff.mpr hs, rfl⟩⟩

theorem pairwise_placedSources (e : CompleteExperiment) :
    (e.placedSources.map Prod.fst).Pairwise Position.Before := by
  rw [List.pairwise_map]
  refine e.pairwise_placed.filterMap _ fun x y hxy x' hx y' hy => ?_
  obtain ⟨s, -, rfl⟩ := Option.map_eq_some_iff.mp hx
  obtain ⟨t, -, rfl⟩ := Option.map_eq_some_iff.mp hy
  exact hxy

/-- The routes of all devices but the one with a number. -/
def routesBeside (e : CompleteExperiment) (p : NamingPolicy) (i : Nat) : List Route :=
  (e.placedSources.filter (·.1.device != i)).map fun x => x.2.route e.id p

/-- They are the routes of the experiment without that device. -/
theorem routesBeside_eq (e : CompleteExperiment) (p : NamingPolicy) (i : Nat) :
    e.routesBeside p i = routes { e with devices := e.devices.eraseIdx i } p := by
  have hcandidates : (e.placed.filter (·.1.device != i)).map Prod.snd =
      candidates { e with devices := e.devices.eraseIdx i } := by
    rw [placed, List.filter_append, List.map_append,
      map_snd_filter_placedBy CompleteDevice.map_snd_placedCharacteristics,
      map_snd_filter_placedBy CompleteDevice.map_snd_placedMeasures]
    · rfl
    · intro d i x hx
      obtain ⟨k, m, -, rfl⟩ := CompleteDevice.mem_placedMeasures.mp hx
      rfl
    · intro d i x hx
      obtain ⟨j, k, s, c, -, -, rfl⟩ := CompleteDevice.mem_placedCharacteristics.mp hx
      rfl
  have hsources : (e.placedSources.filter (·.1.device != i)).map Prod.snd =
      sources { e with devices := e.devices.eraseIdx i } := by
    rw [sources, ← hcandidates, List.filterMap_map, List.filterMap_filter, placedSources,
      List.filter_filterMap, List.map_filterMap]
    refine List.filterMap_congr fun x _ => ?_
    cases h : x.2.verdict.source? <;> by_cases hi : x.1.device = i <;> simp [h, hi]
  rw [routesBeside, routes, ← hsources, List.map_map]
  rfl

/-- The sources of an experiment stand at the positions of its usable candidates, one at each, and
come in the order of these positions; so do its routes. Each route writes a line of its measurement
with at least one field, which is read back if nothing in it looks like more than one item, and each
that goes through an array has a path to it that is not blank. To remove a device, to insert one or
to put one in the place of another leaves the routes of the other devices as they are and in their
order. -/
theorem sources_placed (e : CompleteExperiment) (p : NamingPolicy) :
    e.placedSources.map Prod.snd = e.sources ∧
    (e.placedSources.map fun x => x.2.route e.id p) = e.routes p ∧
    (e.placedSources.map Prod.fst).Pairwise Position.Before ∧
    (e.placedSources.map Prod.fst).Nodup ∧
    (∀ pos s, (pos, s) ∈ e.placedSources ↔ ∃ c, e.at? pos = some c ∧ c.Yields s) ∧
    (∀ s ∈ e.sources, (s.route e.id p).action.writeSyntax = (s.line e.id).text ∧
      writtenMeasurement (s.route e.id p).action.writeSyntax = s.measurement ∧
      (s.line e.id).fields ≠ [] ∧ (∀ item ∈ (s.line e.id).fields, item.value.isSome) ∧
      (Solid e.id → (∀ f ∈ s.parser.fields, IsKey f.name) →
        readLine (s.route e.id p).action.writeSyntax = s.line e.id)) ∧
    (∀ s ∈ e.sources, ∀ array element items,
      s.dispatch.selection = .forEach array element items →
        ∃ path, array = "payload." ++ path ∧ ∃ c ∈ path.toList, Text.isBlank c = false) ∧
    ∀ i d, routes { e with devices := e.devices.eraseIdx i } p = e.routesBeside p i ∧
      routesBeside { e with devices := e.devices.insertIdx i d } p i = e.routes p ∧
      routesBeside { e with devices := e.devices.set i d } p i = e.routesBeside p i := by
  refine ⟨e.map_snd_placedSources, ?_, e.pairwise_placedSources,
    e.pairwise_placedSources.imp Position.Before.ne, fun pos s => mem_placedSources,
    fun s hs => ⟨s.writeSyntax_eq e.id p, s.writtenMeasurement_eq hs e.id, ?_,
      s.isSome_value_line e.id, fun hid hnames => Source.readLine_template hs hid hnames⟩,
    fun s hs array element items => (sound_of_mem hs).path_of_forEach, fun i d => ?_⟩
  · rw [routes, ← e.map_snd_placedSources, List.map_map]
    rfl
  · exact List.map_eq_nil_iff.not.mpr (sound_of_mem hs).fields_ne_nil
  · simp only [routesBeside_eq, List.eraseIdx_insertIdx_self, List.eraseIdx_set_eq, and_self]

end CompleteExperiment

/-- A device of which one characteristic and one measure are usable. -/
def crowded : CompleteDevice where
  slot := "sensor_0"
  sensorId := "650000000000000000000001"
  name := "Mast"
  shortName := "Mast"
  address := "AA:01"
  services := [⟨"env", [
    ⟨"!!!", "", { struct := some ⟨[]⟩ }, some "t/nameless"⟩,
    ⟨"Gust", "", { struct := some ⟨[]⟩ }, none⟩,
    ⟨"Rain", "", { jsonArray := some ⟨" ", [⟨"mm", none, none⟩]⟩ }, some "t/rain"⟩,
    ⟨"Wind", "", { jsonArray := some ⟨"readings", [⟨"v", none, none⟩]⟩, single := some [] },
      some "t/wind"⟩]⟩]
  whiteboard := [⟨"Heat", "", { single := some [⟨"v", none, none⟩] }⟩,
    ⟨"Battery", "ms/battery", { struct := some ⟨[]⟩ }⟩]

/-- Two such devices have two routes each, and that of the wind goes through an array. -/
theorem sources_placed_crowded :
    (CompleteExperiment.placedSources ⟨"7", "", [crowded, crowded]⟩).map Prod.fst =
      [.characteristic 0 0 3, .characteristic 1 0 3, .measure 0 1, .measure 1 1] ∧
    ∃ s ∈ CompleteExperiment.sources ⟨"7", "", [crowded, crowded]⟩,
      (readLine (s.route "7" .standard).action.writeSyntax).fields ≠ [] ∧
      ∃ array element items, s.dispatch.selection = .forEach array element items ∧
        ∃ path, array = "payload." ++ path ∧ ∃ c ∈ path.toList, Text.isBlank c = false := by
  have hwind : (⟨crowded, .structured "env", "Wind", "mast_wind", "t/wind",
      .jsonArray ⟨"readings", [⟨"v", none, none⟩]⟩⟩ : Source) ∈
        CompleteExperiment.sources ⟨"7", "", [crowded, crowded]⟩ := by decide +kernel
  obtain ⟨-, -, -, -, -, hfields, hpath, -⟩ :=
    CompleteExperiment.sources_placed ⟨"7", "", [crowded, crowded]⟩ .standard
  obtain ⟨-, -, hne, -, hread⟩ := hfields _ hwind
  refine ⟨by decide +kernel, _, hwind, ?_, _, _, _, rfl, hpath _ hwind _ _ _ rfl⟩
  rw [hread (by decide) (by decide)]
  exact hne

end Telemetry
