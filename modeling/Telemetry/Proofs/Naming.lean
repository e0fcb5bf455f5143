import Telemetry.Proofs.Candidates

/-!
# What names tell

* `notMem_sanitize`: what cannot stand in a sanitized name; `measurementName_count`: so a measurement
  has one underscore.
* `Source.measurement_eq`: sources of an experiment that share an action write the same measurement,
  whatever the scopes of their names.
-/

namespace Telemetry

/-- A sanitized name consists of plain characters. -/
theorem isPlain_of_mem_sanitize {s : String} {c : Char} (h : c ∈ (sanitize s).toList) :
    isPlain c = true := by
  rw [sanitize, String.toList_ofList] at h
  exact (List.mem_filter.mp h).2

/-- A mark that is not plain stands in no sanitized name, so it can divide names. -/
theorem notMem_sanitize {mark : Char} (h : isPlain mark = false) (s : String) :
    mark ∉ (sanitize s).toList := by
  intro hmark
  rw [isPlain_of_mem_sanitize hmark] at h
  cases h

/-- The parts of a measurement have no underscore, so the one between them is the only one. -/
theorem measurementName_count {shortName name m : String}
    (h : measurementName shortName name = some m) : m.toList.count '_' = 1 := by
  obtain ⟨-, -, rfl⟩ := measurementName_eq_some_iff.mp h
  have hmark : isPlain '_' = false := by decide
  have hshort := List.count_eq_zero.mpr (notMem_sanitize hmark shortName)
  have hname := List.count_eq_zero.mpr (notMem_sanitize hmark name)
  rw [String.toList_append, String.toList_append, List.count_append, List.count_append, hshort,
    hname]
  decide

theorem CompleteExperiment.measurementName_eq {e : CompleteExperiment} {s : Source}
    (hs : s ∈ e.sources) : measurementName s.device.shortName s.name = some s.measurement := by
  obtain ⟨c, -, hc⟩ := List.mem_filterMap.mp hs
  exact (Candidate.source?_eq_some_iff.mp hc).measurementName_eq

/-- A name's suffix is empty, or it starts with an underscore. -/
theorem NamingPolicy.suffix_cases (p : NamingPolicy) (b : Branch) (experiment : String) :
    p.suffix b experiment = "" ∨ p.suffix b experiment = "_" ++ experiment := by
  unfold suffix
  split
  · split
    · exact .inl rfl
    · exact .inr rfl
  · exact .inl rfl

/-- A measurement with an underscore after it is no measurement. -/
theorem measurement_append_ne {m m' tail : String} (hm : m.toList.count '_' = 1)
    (hm' : m'.toList.count '_' = 1) : m ++ ("_" ++ tail) ≠ m' := by
  rintro rfl
  rw [String.toList_append, String.toList_append, List.count_append, List.count_append, hm] at hm'
  have hone : "_".toList.count '_' = 1 := by decide
  omega

/-- Sources of an experiment that share an action write the same measurement. -/
theorem Source.measurement_eq {e : CompleteExperiment} {policy : NamingPolicy} {s s' : Source}
    (hs : s ∈ e.sources) (hs' : s' ∈ e.sources)
    (h : s.actionName e.id policy = s'.actionName e.id policy) :
    s.measurement = s'.measurement := by
  have hm := measurementName_count (e.measurementName_eq hs)
  have hm' := measurementName_count (e.measurementName_eq hs')
  simp only [actionName, resourceName, String.append_assoc, String.append_right_inj] at h
  obtain hp | hp := policy.suffix_cases s.branch e.id
  · obtain hp' | hp' := policy.suffix_cases s'.branch e.id
    · simpa [hp, hp'] using h
    · rw [hp, hp', String.append_empty] at h
      exact absurd h.symm (measurement_append_ne hm' hm)
  · obtain hp' | hp' := policy.suffix_cases s'.branch e.id
    · rw [hp, hp', String.append_empty] at h
      exact absurd h (measurement_append_ne hm hm')
    · rw [hp, hp'] at h
      exact (String.append_left_inj _).mp h

end Telemetry
