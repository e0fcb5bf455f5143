import Telemetry.Proofs.Completion
import Telemetry.Proofs.Naming
import Telemetry.Proofs.ObjectId
import Telemetry.Proofs.Separated

/-!
# What a topic identifies

A topic is five parts with slashes between them. The display name of the device stands in the middle
as it was given, so it may hold slashes of its own and anything else. The prefix is known, the id of
an experiment has no slash, and neither have the two sanitized parts at the end: these are taken off
from both ends, and what is left is the name.

* `mqttTopic_eq_iff`: topics under one prefix are the same exactly if their parts are.
* `Experiments.mqttTopic_eq`: the topic of a characteristic of a complete experiment.
* `Experiments.topics_identified`: which characteristics of complete experiments share a topic.
-/

namespace Telemetry

/-- The id of a stored document has no slash. -/
theorem ObjectId.slash_notMem_toHex (x : ObjectId) : '/' ∉ x.toHex.toList := by
  intro h
  exact absurd (x.toHex_digits.2 _ h) (by decide)

theorem toList_mqttTopic (root experiment device address name : String) :
    (mqttTopic root experiment device address name).toList =
      root.toList ++ '/' :: (experiment.toList ++ '/' :: ((device.toList ++ '/' ::
        (sanitize address).toList) ++ '/' :: (sanitize name).toList)) := by
  have hslash : "/".toList = ['/'] := rfl
  simp only [mqttTopic, String.toList_append, hslash, List.append_assoc, List.cons_append,
    List.nil_append]

/-- Topics under one prefix are the same exactly if their parts are, whatever the display names. -/
theorem mqttTopic_eq_iff {root experiment experiment' : String} (h : '/' ∉ experiment.toList)
    (h' : '/' ∉ experiment'.toList) {device device' address address' name name' : String} :
    mqttTopic root experiment device address name =
        mqttTopic root experiment' device' address' name' ↔
      experiment = experiment' ∧ device = device' ∧ sanitize address = sanitize address' ∧
        sanitize name = sanitize name' := by
  have hmark : isPlain '/' = false := by decide
  have haddress := notMem_sanitize hmark address
  have haddress' := notMem_sanitize hmark address'
  have hname := notMem_sanitize hmark name
  have hname' := notMem_sanitize hmark name'
  rw [← String.toList_inj, toList_mqttTopic, toList_mqttTopic, List.append_right_inj,
    List.cons.injEq, append_mark_inj h h', append_lastMark_inj hname hname',
    append_lastMark_inj haddress haddress']
  simp only [String.toList_inj, true_and, and_assoc]

/-! ## Joined devices -/

/-- Every characteristic of a service that was enabled has the topic of its name. -/
theorem Enables.mqttTopic_eq {offered : List Service} {topic : String → String}
    {uuids : List String} {services : List Service} (h : Enables offered topic uuids services)
    {c : Characteristic} (hc : c ∈ services.flatMap (·.characteristics)) :
    c.mqttTopic = some (topic c.name) := by
  obtain ⟨s, hs, hc⟩ := List.mem_flatMap.mp hc
  rw [enables_iff] at h
  subst h
  obtain ⟨stored, -, rfl⟩ := List.mem_map.mp hs
  obtain ⟨c, -, rfl⟩ := List.mem_map.mp hc
  rfl

/-- A characteristic of a joined device has the topic of the device's name and address and of its
own name. -/
theorem DeviceSlot.Joined.mqttTopic_eq {slot : DeviceSlot} {index : Nat} {experiment root : String}
    {record : SensorRecord} {device : CompleteDevice}
    (h : slot.Joined index experiment root record device) {c : Characteristic}
    (hc : c ∈ device.services.flatMap (·.characteristics)) :
    c.mqttTopic = some (mqttTopic root experiment device.name device.address c.name) := by
  rw [h.services.mqttTopic_eq hc, h.address]

namespace Experiments

variable {σ : Type} {b : Backends σ} {s : DocumentStore × σ}

/-- A characteristic of a complete experiment has the topic of the experiment's id, of its device
and of its own name. -/
theorem mqttTopic_eq {root id : String} {e : CompleteExperiment}
    (he : Operation.result b.answer (complete root id) s = .ok e) {d : CompleteDevice}
    (hd : d ∈ e.devices) {c : Characteristic}
    (hc : c ∈ d.services.flatMap (·.characteristics)) :
    c.mqttTopic = some (mqttTopic root e.id d.name d.address c.name) := by
  have hcompletes := complete_completes b root id s
  rw [he] at hcompletes
  cases hcompletes with
  | joined _ _ hlength hjoined =>
    obtain ⟨i, hi, rfl⟩ := List.getElem_of_mem hd
    obtain ⟨device, hdevice, hjoin⟩ := hjoined i _ (List.getElem?_eq_getElem (hlength ▸ hi))
    obtain rfl := (List.getElem_eq_iff hi).mpr hdevice
    obtain ⟨sensor, -, hjoin⟩ := DocumentStore.joinAt_eq_ok_iff.mp hjoin
    obtain ⟨record, -, hjoin⟩ := DeviceSlot.join_eq_ok_iff.mp hjoin
    exact hjoin.mqttTopic_eq hc

/-- The id of a complete experiment has no slash. -/
theorem slash_notMem_id {root id : String} {e : CompleteExperiment}
    (he : Operation.result b.answer (complete root id) s = .ok e) : '/' ∉ e.id.toList := by
  obtain ⟨x, -, hid⟩ := complete_ok he
  rw [hid]
  exact x.slash_notMem_toHex

/-- Whatever the display names are, topics under one prefix are the same exactly if the experiments,
the display names and the sanitized addresses and names are the same. So two characteristics of
complete experiments, of one or of two, share their topic exactly if this holds of them. -/
theorem topics_identified (b : Backends σ) (root : String) :
    (∀ experiment experiment' device device' address address' name name' : String,
      '/' ∉ experiment.toList → '/' ∉ experiment'.toList →
        (mqttTopic root experiment device address name =
            mqttTopic root experiment' device' address' name' ↔
          experiment = experiment' ∧ device = device' ∧ sanitize address = sanitize address' ∧
            sanitize name = sanitize name')) ∧
    ∀ (id id' : String) (s s' : DocumentStore × σ) (e e' : CompleteExperiment),
      Operation.result b.answer (complete root id) s = .ok e →
      Operation.result b.answer (complete root id') s' = .ok e' →
        ∀ d ∈ e.devices, ∀ c ∈ d.services.flatMap (·.characteristics),
        ∀ d' ∈ e'.devices, ∀ c' ∈ d'.services.flatMap (·.characteristics),
          (c.mqttTopic = c'.mqttTopic ↔
            e.id = e'.id ∧ d.name = d'.name ∧ sanitize d.address = sanitize d'.address ∧
              sanitize c.name = sanitize c'.name) := by
  refine ⟨fun _ _ _ _ _ _ _ _ h h' => mqttTopic_eq_iff h h', ?_⟩
  intro id id' s s' e e' he he' d hd c hc d' hd' c' hc'
  rw [mqttTopic_eq he hd hc, mqttTopic_eq he' hd' hc', Option.some_inj]
  exact mqttTopic_eq_iff (slash_notMem_id he) (slash_notMem_id he')

/-- What the topics of the complete experiment of the hygrometer are made of. -/
def published (id : String) : Except Error (List (String × String × String × String)) :=
  (Operation.result Dashboard.quiet.answer (complete "qiot" id) Dashboard.furnished).map fun e =>
    e.devices.flatMap fun d => (d.services.flatMap (·.characteristics)).map fun c =>
      (e.id, d.name, d.address, c.name)

theorem exists_published {id : String} {parts : String × String × String × String}
    (h : published id = .ok [parts]) :
    ∃ e, Operation.result Dashboard.quiet.answer (complete "qiot" id) Dashboard.furnished = .ok e ∧
      ∃ d ∈ e.devices, ∃ c ∈ d.services.flatMap (·.characteristics),
        (e.id, d.name, d.address, c.name) = parts := by
  obtain ⟨e, he, hall⟩ := map_eq_ok_iff.mp h
  have hmem := List.mem_singleton_self parts
  rw [← hall] at hmem
  obtain ⟨d, hd, hmem⟩ := List.mem_flatMap.mp hmem
  obtain ⟨c, hc, hparts⟩ := List.mem_map.mp hmem
  exact ⟨e, he, d, hd, c, hc, hparts⟩

/-- A slash in a display name moves no part into another one, and the topic of the hygrometer is the
same however the id of its experiment is spelled. -/
theorem topics_identified_hygrometer :
    '/' ∉ "6500000000000000000000aa".toList ∧
    mqttTopic "qiot" "6500000000000000000000aa" "Hall/aa01" "" "Humidity" ≠
      mqttTopic "qiot" "6500000000000000000000aa" "Hall" "AA:01" "Humidity" ∧
    ∃ e e' d d' c c',
      Operation.result Dashboard.quiet.answer (complete "qiot" "6500000000000000000000aa")
        Dashboard.furnished = .ok e ∧
      Operation.result Dashboard.quiet.answer (complete "qiot" "6500000000000000000000AA")
        Dashboard.furnished = .ok e' ∧
      d ∈ e.devices ∧ c ∈ d.services.flatMap (·.characteristics) ∧
      d' ∈ e'.devices ∧ c' ∈ d'.services.flatMap (·.characteristics) ∧
      c.mqttTopic = c'.mqttTopic := by
  have hid : '/' ∉ "6500000000000000000000aa".toList := by decide
  have hname : ("Hall/aa01" : String) ≠ "Hall" := by decide
  have hlower : published "6500000000000000000000aa" =
      .ok [("6500000000000000000000aa", "Hygro", "AA:01", "Humidity")] := by decide +kernel
  have hupper : published "6500000000000000000000AA" =
      .ok [("6500000000000000000000aa", "Hygro", "AA:01", "Humidity")] := by decide +kernel
  obtain ⟨e, he, d, hd, c, hc, hparts⟩ := exists_published hlower
  obtain ⟨e', he', d', hd', c', hc', hparts'⟩ := exists_published hupper
  obtain ⟨hsplit, htopics⟩ := topics_identified Dashboard.quiet "qiot"
  refine ⟨hid, fun h => hname ((hsplit _ _ _ _ _ _ _ _ hid hid).mp h).2.1, e, e', d, d', c, c',
    he, he', hd, hc, hd', hc', ?_⟩
  obtain ⟨hid, hname, haddress, hcname⟩ : e.id = e'.id ∧ d.name = d'.name ∧
      d.address = d'.address ∧ c.name = c'.name := by simpa using hparts.trans hparts'.symm
  refine (htopics _ _ _ _ e e' he he' d hd c hc d' hd' c' hc').mpr ⟨hid, hname, ?_, ?_⟩
  · rw [haddress]
  · rw [hcname]

end Experiments

end Telemetry
