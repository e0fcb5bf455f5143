import Mathlib.Data.List.Nodup
import Telemetry.Sync.Report

/-!
# Plans, groups and reports

* `map_index_plan`, `map_route_plan`: a plan numbers the routes in their order.
* `soleCreator_of_step`, `exists_creator`: an action is created by the first route of its name, if
  it was not listed, and replaced by all others.
* `groups_cons`: the groups of a plan, one action after the other.
* `flatten_groups_perm`: each planned route is in one group; `groups_disjoint`: planned routes of
  different groups write different actions.
* `Report.ofOutcomes_eq`: the order in which outcomes come makes no difference to a report.
-/

namespace Telemetry.Sync

/-! ## Plans -/

theorem map_index_planFrom (present : List String) (i : Nat) (rs : List Route) :
    (planFrom present i rs).map PlannedRoute.index = List.range' i rs.length := by
  induction rs generalizing present i with
  | nil => rfl
  | cons r rs ih =>
    rw [planFrom, List.map_cons, ih, List.length_cons, List.range'_succ]

theorem map_route_planFrom (present : List String) (i : Nat) (rs : List Route) :
    (planFrom present i rs).map PlannedRoute.route = rs := by
  induction rs generalizing present i with
  | nil => rfl
  | cons r rs ih => rw [planFrom, List.map_cons, ih]

theorem map_index_plan (listed : List RemoteAction) (rs : List Route) :
    (plan listed rs).map PlannedRoute.index = List.range rs.length := by
  rw [plan, map_index_planFrom, List.range_eq_range']

theorem map_route_plan (listed : List RemoteAction) (rs : List Route) :
    (plan listed rs).map PlannedRoute.route = rs := map_route_planFrom ..

/-- Every route is planned. -/
theorem exists_planned (listed : List RemoteAction) {rs : List Route} {r : Route} (hr : r ∈ rs) :
    ∃ p ∈ plan listed rs, p.route = r := by
  rw [← map_route_plan listed rs] at hr
  exact List.mem_map.mp hr

/-- The route of a planned route is one of those that are planned. -/
theorem route_mem_of_mem_plan {listed : List RemoteAction} {rs : List Route} {p : PlannedRoute}
    (hp : p ∈ plan listed rs) : p.route ∈ rs := by
  rw [← map_route_plan listed rs]
  exact List.mem_map_of_mem hp

/-- An action is created by a route if it was not there and no route before writes it. -/
theorem step_planFrom {present : List String} {i : Nat} {rs : List Route} {p : PlannedRoute}
    {ps ps' : List PlannedRoute} (h : planFrom present i rs = ps ++ p :: ps') :
    p.step = .create ↔ p.actionName ∉ present ∧ ∀ p' ∈ ps, p'.actionName ≠ p.actionName := by
  induction rs generalizing present i ps with
  | nil => simp [planFrom] at h
  | cons r rs ih =>
    rw [planFrom] at h
    cases ps with
    | nil =>
      obtain ⟨rfl, -⟩ := List.cons.inj h
      simp [PlannedRoute.actionName]
    | cons x ps =>
      obtain ⟨rfl, htail⟩ := List.cons.inj h
      rw [ih htail, List.mem_cons, List.forall_mem_cons, not_or, and_assoc]
      exact ⟨fun ⟨hne, hpresent, hps⟩ => ⟨hpresent, Ne.symm hne, hps⟩,
        fun ⟨hpresent, hne, hps⟩ => ⟨Ne.symm hne, hpresent, hps⟩⟩

/-- A plan takes the routes in their order. -/
theorem sorted_plan (listed : List RemoteAction) (rs : List Route) :
    (plan listed rs).Pairwise fun p p' => p.index < p'.index := by
  have h : ((plan listed rs).map PlannedRoute.index).Pairwise (· < ·) := by
    rw [map_index_plan]
    exact List.pairwise_lt_range
  exact List.pairwise_map.mp h

/-- The route is the first of its action's name, which was not listed, and all others of this name
are planned to replace the action. -/
def SoleCreator (listed : List RemoteAction) (rs : List Route) (p : PlannedRoute) : Prop :=
  p.actionName ∉ listed.map (·.name) ∧ ∀ p' ∈ plan listed rs, p'.actionName = p.actionName →
    p' = p ∨ p.index < p'.index ∧ p'.step = .update

/-- Only the first route of a name that was not listed creates its action. -/
theorem soleCreator_of_step {listed : List RemoteAction} {rs : List Route} {p : PlannedRoute}
    (hp : p ∈ plan listed rs) (hstep : p.step = .create) : SoleCreator listed rs p := by
  obtain ⟨ps, ps', h⟩ := List.append_of_mem hp
  obtain ⟨hlisted, hfirst⟩ := (step_planFrom h).mp hstep
  refine ⟨hlisted, fun p' hp' hname => ?_⟩
  have hsorted := sorted_plan listed rs
  rw [h] at hp' hsorted
  obtain hp' | hp' := List.mem_append.mp hp'
  · exact absurd hname (hfirst p' hp')
  obtain rfl | hp' := List.mem_cons.mp hp'
  · exact .inl rfl
  · have hindex := (List.pairwise_cons.mp (List.pairwise_append.mp hsorted).2.1).1 p' hp'
    refine .inr ⟨hindex, ?_⟩
    obtain ⟨qs, qs', rfl⟩ := List.append_of_mem hp'
    have h' : plan listed rs = (ps ++ p :: qs) ++ p' :: qs' := by simpa using h
    cases hstep' : p'.step with
    | update => rfl
    | create => exact absurd hname.symm (((step_planFrom h').mp hstep').2 p (by simp))

/-- An action that is replaced was listed, or a route before creates it. -/
theorem exists_creator {listed : List RemoteAction} {rs : List Route} {p : PlannedRoute}
    (hp : p ∈ plan listed rs) (hstep : p.step = .update) : p.actionName ∈ listed.map (·.name) ∨
      ∃ c ∈ plan listed rs, c.actionName = p.actionName ∧ c.step = .create ∧
        c.index < p.index := by
  obtain ⟨ps, ps', h⟩ := List.append_of_mem hp
  have hnot : ¬ (p.actionName ∉ listed.map (·.name) ∧
      ∀ p' ∈ ps, p'.actionName ≠ p.actionName) := by
    rw [← step_planFrom h, hstep]
    simp
  by_cases hlisted : p.actionName ∈ listed.map (·.name)
  · exact .inl hlisted
  obtain ⟨p', hp', hname⟩ : ∃ p' ∈ ps, p'.actionName = p.actionName := by
    simpa [hlisted] using hnot
  -- Of the routes of this name the first one creates the action.
  obtain ⟨c, hc⟩ : ∃ c, ps.find? (·.actionName == p.actionName) = some c :=
    Option.isSome_iff_exists.mp (List.find?_isSome.mpr ⟨p', hp', by simpa using hname⟩)
  obtain ⟨hcname, qs, qs', rfl, hqs⟩ := List.find?_eq_some_iff_append.mp hc
  have hcname : c.actionName = p.actionName := by simpa using hcname
  have hsplit : plan listed rs = qs ++ c :: (qs' ++ p :: ps') := by simpa using h
  have hsorted := sorted_plan listed rs
  rw [h] at hsorted
  refine .inr ⟨c, by simp [h], hcname, ?_, ?_⟩
  · refine (step_planFrom hsplit).mpr ⟨hcname ▸ hlisted, fun x hx => ?_⟩
    simpa [hcname] using hqs x hx
  · exact (List.pairwise_append.mp hsorted).2.2 c (by simp) p (by simp)

/-! ## Groups -/

/-- First the planned routes of the action that comes first, and then the other groups. -/
theorem groups_cons (p : PlannedRoute) (ps : List PlannedRoute) :
    groups (p :: ps) = (p :: ps).filter (·.actionName == p.actionName) ::
      groups (ps.filter (·.actionName != p.actionName)) := by
  have hnames : ((ps.map PlannedRoute.actionName).filter fun n => !n == p.actionName) =
      (ps.filter (·.actionName != p.actionName)).map PlannedRoute.actionName := by
    rw [List.filter_map]
    rfl
  rw [groups, List.map_cons, List.eraseDups_cons, List.map_cons, hnames, groups]
  refine congrArg _ (List.map_congr_left fun name hname => ?_)
  rw [List.mem_eraseDups] at hname
  obtain ⟨p', hp', rfl⟩ := List.mem_map.mp hname
  have hne : p'.actionName ≠ p.actionName := by simpa using (List.mem_filter.mp hp').2
  rw [List.filter_cons_of_neg (by simpa using Ne.symm hne), List.filter_filter]
  refine List.filter_congr fun x _ => ?_
  by_cases hx : x.actionName = p'.actionName
  · simp [hx, hne]
  · simp [hx]

/-- Each planned route is in one group. -/
theorem flatten_groups_perm (ps : List PlannedRoute) : (groups ps).flatten.Perm ps := by
  match ps with
  | [] => exact .nil
  | p :: ps =>
    have hlen : (ps.filter (·.actionName != p.actionName)).length ≤ ps.length :=
      List.length_filter_le ..
    have ih := flatten_groups_perm (ps.filter (·.actionName != p.actionName))
    have hrest : (p :: ps).filter (fun x => !(x.actionName == p.actionName)) =
        ps.filter (·.actionName != p.actionName) := List.filter_cons_of_neg (by simp)
    rw [groups_cons, List.flatten_cons]
    refine (ih.append_left _).trans ?_
    rw [← hrest]
    exact List.filter_append_perm ..
termination_by ps.length

/-- Planned routes of different groups write different actions. -/
theorem groups_disjoint (ps : List PlannedRoute) :
    (groups ps).Pairwise fun g g' =>
      ∀ p ∈ g, ∀ p' ∈ g', p.actionName ≠ p'.actionName := by
  match ps with
  | [] => exact .nil
  | p :: ps =>
    have hlen : (ps.filter (·.actionName != p.actionName)).length ≤ ps.length :=
      List.length_filter_le ..
    rw [groups_cons]
    refine .cons (fun g' hg' x hx x' hx' => ?_) (groups_disjoint _)
    have hx' := (flatten_groups_perm _).mem_iff.mp (List.mem_flatten_of_mem hg' hx')
    have hx : x.actionName = p.actionName := by simpa using (List.mem_filter.mp hx).2
    have hx' : x'.actionName ≠ p.actionName := by simpa using (List.mem_filter.mp hx').2
    rw [hx]
    exact hx'.symm
termination_by ps.length

/-- Planned routes that write the same action are in one group. -/
theorem group_unique {ps g g' : List PlannedRoute} {i j : Nat} {p p' : PlannedRoute}
    (hg : (groups ps)[i]? = some g) (hg' : (groups ps)[j]? = some g') (hp : p ∈ g) (hp' : p' ∈ g')
    (hname : p.actionName = p'.actionName) : i = j := by
  obtain ⟨hi, rfl⟩ := List.getElem?_eq_some_iff.mp hg
  obtain ⟨hj, rfl⟩ := List.getElem?_eq_some_iff.mp hg'
  have hdisjoint := List.pairwise_iff_getElem.mp (groups_disjoint ps)
  obtain hlt | heq | hgt := Nat.lt_trichotomy i j
  · exact absurd hname (hdisjoint i j hi hj hlt p hp p' hp')
  · exact heq
  · exact absurd hname.symm (hdisjoint j i hj hi hgt p' hp' p hp)

/-- A group takes its routes in the order of the plan. -/
theorem group_sublist {ps g : List PlannedRoute} (hg : g ∈ groups ps) : g.Sublist ps := by
  obtain ⟨name, -, rfl⟩ := List.mem_map.mp hg
  exact List.filter_sublist

/-- A group has all planned routes that write its action. -/
theorem mem_group {ps g : List PlannedRoute} {p p' : PlannedRoute} (hg : g ∈ groups ps)
    (hp : p ∈ g) (hp' : p' ∈ ps) (hname : p'.actionName = p.actionName) : p' ∈ g := by
  obtain ⟨name, -, rfl⟩ := List.mem_map.mp hg
  have hp := (List.mem_filter.mp hp).2
  exact List.mem_filter.mpr ⟨hp', by rwa [hname]⟩

theorem route_mem_of_mem_groups {listed : List RemoteAction} {rs : List Route}
    {g : List PlannedRoute} (hg : g ∈ groups (plan listed rs)) {p : PlannedRoute} (hp : p ∈ g) :
    p.route ∈ rs := route_mem_of_mem_plan ((group_sublist hg).subset hp)

/-- No two routes of the groups have the same place. -/
theorem nodup_index_groups (listed : List RemoteAction) (rs : List Route) :
    ((groups (plan listed rs)).flatten.map PlannedRoute.index).Nodup := by
  have hperm := (flatten_groups_perm (plan listed rs)).map PlannedRoute.index
  rw [map_index_plan] at hperm
  exact hperm.nodup_iff.mpr List.nodup_range

/-! ## Reports -/

/-- A report is complete if all its outcomes are of routes that were written. -/
theorem Report.isComplete_ofOutcomes (xs : List (Nat × RouteOutcome)) :
    (Report.ofOutcomes xs).isComplete = xs.all (·.2.succeeded) := by
  rw [Report.isComplete, Report.ofOutcomes, List.all_map]
  exact (List.mergeSort_perm ..).all_eq

/-- The statuses of a report are those of the outcomes, in the order of the routes. -/
theorem Report.statuses_ofOutcomes (xs : List (Nat × RouteOutcome)) :
    (Report.ofOutcomes xs).outcomes.map (·.status) =
      ((xs.map fun x => (x.1, x.2.status)).mergeSort fun x y => x.1 ≤ y.1).map (·.2) := by
  rw [← List.map_mergeSort (r := fun x y => x.1 ≤ y.1) (by simp), List.map_map, Report.ofOutcomes,
    List.map_map]
  rfl

/-- The order in which outcomes come makes no difference to a report. -/
theorem Report.ofOutcomes_eq {xs ys : List (Nat × RouteOutcome)} (h : xs.Perm ys)
    (hx : (xs.map (·.1)).Nodup) : Report.ofOutcomes xs = Report.ofOutcomes ys := by
  have hsorted : ∀ zs : List (Nat × RouteOutcome),
      (zs.mergeSort fun x y => x.1 ≤ y.1).Pairwise fun x y => x.1 ≤ y.1 := by
    intro zs
    have hle : (zs.mergeSort fun x y => x.1 ≤ y.1).Pairwise fun x y => decide (x.1 ≤ y.1) :=
      List.pairwise_mergeSort (by intro x y z hxy hyz; simp_all; omega)
        (by intro x y; simp; omega) zs
    simpa using hle
  have hperm : (xs.mergeSort fun x y => x.1 ≤ y.1).Perm (ys.mergeSort fun x y => x.1 ≤ y.1) :=
    (List.mergeSort_perm ..).trans (h.trans (List.mergeSort_perm ..).symm)
  have hinj : ∀ x ∈ xs, ∀ y ∈ xs, x.1 = y.1 → x = y := fun x hx' y hy' =>
    List.inj_on_of_nodup_map hx hx' hy'
  refine congrArg (fun zs : List (Nat × RouteOutcome) => Report.mk (zs.map (·.2))) ?_
  refine hperm.eq_of_pairwise (fun x y hx' hy' hxy hyx => ?_) (hsorted xs) (hsorted ys)
  refine hinj x (List.mem_mergeSort.mp hx') y ?_ (Nat.le_antisymm hxy hyx)
  exact h.mem_iff.mpr (List.mem_mergeSort.mp hy')

end Telemetry.Sync
