import Mathlib.Data.List.Basic
import Mathlib.Data.List.Sort
import Telemetry.Proofs.Sync.Course
import Telemetry.Proofs.Sync.LastBody

/-!
# What came of the routes

The exchanges of a place of the pool are those of the routes of its group, one route after the
other.

* `Course`, `exists_courses`: what each route of a group did and what came of it.
* `exists_reported`: what is known of the routes of each place is known of all routes, and decides
  the report.
* `report_courses`: the report of a finished run has what came of each route, in the order of the
  routes.
* `PlannedRoute.Came`, `report_outcomes`: an outcome is how the route ended after some exchanges of
  a run.
-/

namespace Telemetry.Sync

variable {listed : List RemoteAction} {connector : String} {rs : List Route} {bound : Nat}
  {es : List SyncEvent} {q : SyncPool}

/-! ## One group -/

namespace PlannedRoute

variable {p : PlannedRoute} {l : List SyncExchange} {status : RouteStatus}

/-- What is told of a route that ended. -/
def telling (p : PlannedRoute) : RouteStatus → List SyncExchange
  | .synced .. => []
  | .failed stage e => [logged (routeFailed p.route.measurement stage e)]

theorem plays_report_eq {x : Unit} (h : (report p.route.measurement status).Plays l (.done x)) :
    l = p.telling status := by
  cases status with
  | synced => exact (Dialogue.plays_pure h).1
  | failed stage e => exact Dialogue.plays_question h

end PlannedRoute

/-- What a route did and what came of it. -/
structure Course where
  exchanges : List SyncExchange
  status : RouteStatus

instance : Nonempty Course := ⟨⟨[], .synced .create .created⟩⟩

/-- All exchanges of a planned route: its own ones, and what is told of it. -/
def Course.all (c : Course) (p : PlannedRoute) : List SyncExchange :=
  c.exchanges ++ p.telling c.status

/-- The outcome of a planned route with its place. -/
def Course.placed (c : Course) (p : PlannedRoute) : Nat × RouteOutcome :=
  (p.index, p.outcome c.status)

/-- What is known of some routes may be extended by what is known of another one. -/
theorem exists_extension {κ : Type} {p : PlannedRoute} {ps : List PlannedRoute} (hp : p ∉ ps)
    (f : PlannedRoute → κ) (x : κ) : ∃ f' : PlannedRoute → κ, f' p = x ∧ ∀ p' ∈ ps, f' p' = f p' :=
  ⟨Function.update f p x, Function.update_self .., fun p' hp' =>
    Function.update_of_ne (fun heq : p' = p => hp (heq ▸ hp')) ..⟩

/-- The exchanges of a group are those of its routes, one after the other, and so are its
outcomes. -/
theorem exists_courses {g : List PlannedRoute} {l : List SyncExchange}
    {outcomes : List (Nat × RouteOutcome)} (hg : g.Nodup)
    (h : (syncGroup listed connector g).Plays l (.done outcomes)) :
    ∃ course : PlannedRoute → Course, l = g.flatMap (fun p => (course p).all p) ∧
      outcomes = g.map (fun p => (course p).placed p) ∧
      ∀ p ∈ g, p.Ends listed connector (course p).exchanges (course p).status := by
  induction g generalizing l outcomes with
  | nil =>
    obtain ⟨rfl, rfl⟩ := Dialogue.plays_pure h
    exact ⟨fun _ => ⟨[], .synced .create .created⟩, rfl, rfl, fun _ h => nomatch h⟩
  | cons p ps ih =>
    obtain ⟨hp, hps⟩ := List.nodup_cons.mp hg
    obtain ⟨l₁, status, l₂, l₃, rest, rfl, h₁, h₂, h₃, rfl⟩ := plays_syncGroup_cons.mp h
    obtain ⟨course, rfl, rfl, hends⟩ := ih hps h₃
    obtain rfl := PlannedRoute.plays_report_eq h₂
    obtain ⟨course', hfirst, hrest⟩ := exists_extension hp course ⟨l₁, status⟩
    refine ⟨course', ?_, ?_, List.forall_mem_cons.mpr ⟨?_, fun p' hp' => ?_⟩⟩
    · rw [List.flatMap_cons, hfirst, Course.all, List.append_assoc]
      congr 2
      exact List.flatMap_congr fun p' hp' => by rw [hrest p' hp']
    · rw [List.map_cons, hfirst]
      exact congrArg _ (List.map_congr_left fun p' hp' => by rw [hrest p' hp'])
    · rw [hfirst]
      exact plays_sync_ends h₁
    · rw [hrest p' hp']
      exact hends p' hp'

/-! ## All groups -/

/-- A planned route is in one place. -/
theorem exists_place (ps : List PlannedRoute) (p : PlannedRoute) :
    ∃ i, ∀ (j : Nat) (g : List PlannedRoute), (groups ps)[j]? = some g → p ∈ g → j = i := by
  by_cases h : ∃ (i : Nat) (g : List PlannedRoute), (groups ps)[i]? = some g ∧ p ∈ g
  · obtain ⟨i, g, hg, hp⟩ := h
    exact ⟨i, fun j g' hg' hp' => group_unique hg' hg hp' hp rfl⟩
  · exact ⟨0, fun j g hg hp => (h ⟨j, g, hg, hp⟩).elim⟩

theorem nodup_group {g : List PlannedRoute} (hg : g ∈ groups (plan listed rs)) : g.Nodup := by
  refine List.Nodup.sublist (group_sublist hg) (List.Nodup.of_map PlannedRoute.index ?_)
  rw [map_index_plan]
  exact List.nodup_range

/-- A report of outcomes that come in the order of their places has them in this order. -/
theorem Report.ofOutcomes_sorted {xs : List (Nat × RouteOutcome)}
    (h : xs.Pairwise fun x y => x.1 ≤ y.1) : (Report.ofOutcomes xs).outcomes = xs.map (·.2) := by
  rw [Report.ofOutcomes, List.mergeSort_of_pairwise]
  exact h.imp fun hxy => by simpa using hxy

/-- The results of the groups came in some order. If in each place they are the outcomes of the
routes there, with statuses that follow from something that is known of each route, then so are
those of the report, in the order of the routes. -/
theorem exists_reported {κ : Type} [Nonempty κ]
    {results completed : List (List (Nat × RouteOutcome))}
    (hperm : completed.Perm results) (hlen : results.length = (groups (plan listed rs)).length)
    (status : PlannedRoute → κ → RouteStatus)
    {known : Nat → List PlannedRoute → (PlannedRoute → κ) → Prop}
    (hknown : ∀ i g f f', (∀ p ∈ g, f p = f' p) → known i g f → known i g f')
    (hplaces : ∀ i g outcomes, (groups (plan listed rs))[i]? = some g →
      results[i]? = some outcomes → ∃ f, known i g f ∧
        outcomes = g.map fun p => (p.index, p.outcome (status p (f p)))) :
    ∃ f, (∀ i g, (groups (plan listed rs))[i]? = some g → known i g f) ∧
      (Report.ofOutcomes completed.flatten).outcomes =
        (plan listed rs).map fun p => p.outcome (status p (f p)) := by
  have hgroup : ∀ i, ∃ f, ∀ g, (groups (plan listed rs))[i]? = some g → known i g f ∧
      results[i]? = some (g.map fun p => (p.index, p.outcome (status p (f p)))) := by
    intro i
    cases hg : (groups (plan listed rs))[i]? with
    | none => exact ⟨fun _ => Classical.arbitrary κ, fun g hg => nomatch hg⟩
    | some g =>
      have hi : i < results.length := hlen ▸ (List.getElem?_eq_some_iff.mp hg).1
      have houtcomes := List.getElem?_eq_getElem hi
      obtain ⟨f, hf, heq⟩ := hplaces i g _ hg houtcomes
      refine ⟨f, fun g' hg' => ?_⟩
      obtain rfl := Option.some.inj hg'
      exact ⟨hf, heq ▸ houtcomes⟩
  choose fs hfs using hgroup
  choose place hplace using exists_place (plan listed rs)
  -- What is known of a route is what is known of it in its place.
  let f (p : PlannedRoute) : κ := fs (place p) p
  have hf : ∀ i g, (groups (plan listed rs))[i]? = some g → ∀ p ∈ g, fs i p = f p := by
    intro i g hg p hp
    rw [hplace p i g hg hp]
  let placed (p : PlannedRoute) : Nat × RouteOutcome := (p.index, p.outcome (status p (f p)))
  have hresults : results = (groups (plan listed rs)).map fun g => g.map placed := by
    refine List.ext_getElem? fun i => ?_
    rw [List.getElem?_map]
    cases hg : (groups (plan listed rs))[i]? with
    | none =>
      rw [List.getElem?_eq_none_iff] at hg
      rw [List.getElem?_eq_none (by omega)]
      rfl
    | some g =>
      rw [(hfs i g hg).2, Option.map_some]
      exact congrArg some (List.map_congr_left fun p hp => by rw [hf i g hg p hp])
  -- The results came in some order, and they have the places of the routes.
  have hflatten : completed.flatten.Perm ((plan listed rs).map placed) := by
    refine hperm.flatten.trans ?_
    rw [hresults, ← List.map_flatten]
    exact (flatten_groups_perm _).map placed
  have hindex : ((plan listed rs).map placed).map (·.1) = List.range rs.length := by
    rw [List.map_map, ← map_index_plan listed rs]
    rfl
  have hnodup : (completed.flatten.map (·.1)).Nodup := by
    rw [(hflatten.map _).nodup_iff, hindex]
    exact List.nodup_range
  have hsorted : ((plan listed rs).map placed).Pairwise fun x y => x.1 ≤ y.1 := by
    have hle : (((plan listed rs).map placed).map (·.1)).Pairwise (· ≤ ·) :=
      hindex ▸ List.pairwise_le_range
    exact List.pairwise_map.mp hle
  refine ⟨f, fun i g hg => hknown i g _ _ (hf i g hg) (hfs i g hg).1, ?_⟩
  rw [Report.ofOutcomes_eq hflatten hnodup, Report.ofOutcomes_sorted hsorted, List.map_map]
  rfl

/-- Whatever was listed, whatever the broker answers, whenever the caller gives up and however the
groups are written side by side: each route has a course of its own, the exchanges of each place are
those of the routes of its group, and the report has what came of the routes, in their order. -/
theorem report_courses (hr : Pool.Runs bound (pool listed connector rs) es q)
    (hfinished : q.isFinished = true) : ∃ course : PlannedRoute → Course,
      (∀ i g, (groups (plan listed rs))[i]? = some g →
        Pool.exchanges i es = g.flatMap fun p => (course p).all p) ∧
      (∀ p ∈ plan listed rs,
        p.Ends listed connector (course p).exchanges (course p).status) ∧
      (Report.ofOutcomes q.completed.flatten).outcomes =
        (plan listed rs).map fun p => p.outcome (course p).status := by
  obtain ⟨results, hperm, hlen, hplaces⟩ := hr.exists_results hfinished
  let known (i : Nat) (g : List PlannedRoute) (course : PlannedRoute → Course) : Prop :=
    Pool.exchanges i es = g.flatMap (fun p => (course p).all p) ∧
      ∀ p ∈ g, p.Ends listed connector (course p).exchanges (course p).status
  have hknown : ∀ i g course course', (∀ p ∈ g, course p = course' p) →
      known i g course → known i g course' := by
    rintro i g course course' hsame ⟨hexchanges, hends⟩
    refine ⟨?_, fun p hp => hsame p hp ▸ hends p hp⟩
    rw [hexchanges]
    exact List.flatMap_congr fun p hp => by rw [hsame p hp]
  obtain ⟨course, hcourse, houtcomes⟩ := exists_reported hperm (by simpa using hlen)
    (fun _ => Course.status) hknown fun i g outcomes hg houtcomes => by
      have hplays := hplaces i _ _ (by rw [List.getElem?_map, hg, Option.map_some]) houtcomes
      obtain ⟨course, hexchanges, heq, hends⟩ :=
        exists_courses (nodup_group (List.mem_of_getElem? hg)) hplays
      exact ⟨course, ⟨hexchanges, hends⟩, heq⟩
  refine ⟨course, fun i g hg => (hcourse i g hg).1, fun p hp => ?_, houtcomes⟩
  obtain ⟨g, hg, hpg⟩ := List.mem_flatten.mp ((flatten_groups_perm _).mem_iff.mpr hp)
  obtain ⟨i, hi⟩ := List.getElem?_of_mem hg
  exact (hcourse i g hi).2 p hpg

/-- An outcome of a planned route: with these exchanges, which were made in some place, the route
ended so. -/
def PlannedRoute.Came (listed : List RemoteAction) (connector : String) (es : List SyncEvent)
    (p : PlannedRoute) (o : RouteOutcome) : Prop :=
  ∃ i l status, l <:+: Pool.exchanges i es ∧ p.Ends listed connector l status ∧
    o = p.outcome status

/-- A report has one outcome for each route, in the order of the routes, which is how the planned
route ended. -/
theorem report_outcomes (hr : Pool.Runs bound (pool listed connector rs) es q) {report : Report}
    (hreport : report? q = some report) :
    List.Forall₂ (PlannedRoute.Came listed connector es) (plan listed rs) report.outcomes := by
  obtain ⟨hfinished, rfl⟩ := report?_eq_some hreport
  obtain ⟨course, hexchanges, hends, houtcomes⟩ := report_courses hr hfinished
  rw [houtcomes, List.forall₂_map_right_iff, List.forall₂_same]
  intro p hp
  obtain ⟨g, hg, hpg⟩ := List.mem_flatten.mp ((flatten_groups_perm _).mem_iff.mpr hp)
  obtain ⟨i, hi⟩ := List.getElem?_of_mem hg
  obtain ⟨ps, ps', rfl⟩ := List.append_of_mem hpg
  refine ⟨i, (course p).exchanges, (course p).status, ?_, hends p hp, rfl⟩
  rw [hexchanges i _ hi, List.flatMap_append, List.flatMap_cons, Course.all]
  simp only [List.append_assoc]
  exact List.infix_append' ..

end Telemetry.Sync
