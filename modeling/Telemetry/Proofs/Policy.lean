import Mathlib.Data.List.Forall2
import Telemetry.Route

/-!
# What a naming policy changes

* `NamingPolicy.Scopes`: whether the names of a branch carry the id of the experiment.
* `Source.resourceName_tailed`: the name of a resource has the id as its tail exactly if its branch
  is scoped.
* `CompleteExperiment.routes_tailed`: two policies give routes that differ in names alone, and each
  name is the one without scopes, with the tail or without it.
-/

namespace Telemetry

namespace NamingPolicy

/-- No name carries the id of the experiment. -/
def unscoped : NamingPolicy := ⟨.global, .global⟩

/-- The names of a branch are to carry the id of the experiment, and there is an id: the policy has
one scope for the characteristics of services and one for whiteboards. -/
def Scopes (p : NamingPolicy) (b : Branch) (experiment : String) : Prop :=
  (match b with
    | .structured _ => p.structured = .experiment
    | .whiteboard => p.whiteboard = .experiment) ∧ experiment ≠ ""

theorem scopes_iff {p : NamingPolicy} {b : Branch} {experiment : String} :
    p.Scopes b experiment ↔ p.scopeOf b = .experiment ∧ experiment ≠ "" := by
  cases b <;> rfl

instance (p : NamingPolicy) (b : Branch) (experiment : String) :
    Decidable (p.Scopes b experiment) := decidable_of_iff' _ scopes_iff

theorem suffix_of_scopes {p : NamingPolicy} {b : Branch} {experiment : String}
    (h : p.Scopes b experiment) : p.suffix b experiment = "_" ++ experiment := by
  obtain ⟨hscope, hid⟩ := scopes_iff.mp h
  simp [suffix, hscope, hid]

theorem suffix_of_not_scopes {p : NamingPolicy} {b : Branch} {experiment : String}
    (h : ¬ p.Scopes b experiment) : p.suffix b experiment = "" := by
  unfold suffix
  split
  · next hscope =>
    have hid : experiment = "" := by_contra fun hne => h (scopes_iff.mpr ⟨hscope, hne⟩)
    rw [if_pos hid]
  · rfl

theorem not_unscoped_scopes (b : Branch) (experiment : String) :
    ¬ unscoped.Scopes b experiment := by
  rintro ⟨hscope, -⟩
  cases b <;> simp [unscoped] at hscope

end NamingPolicy

/-- A name is another one with a tail if the tail is wanted, and only then. -/
structure Tailed (tail : String) (wanted : Prop) (plain name : String) : Prop where
  tailed_iff : name = plain ++ tail ↔ wanted
  plain_iff : name = plain ↔ ¬ wanted

/-- The tail starts with an underscore, so it makes a difference. -/
theorem append_underscore_ne (name tail : String) : name ++ ("_" ++ tail) ≠ name := by
  intro h
  have hlength := congrArg String.length h
  have hone : "_".length = 1 := by decide
  simp only [String.length_append, hone] at hlength
  omega

theorem Tailed.append {wanted : Prop} (h : wanted) (plain tail : String) :
    Tailed ("_" ++ tail) wanted plain (plain ++ ("_" ++ tail)) where
  tailed_iff := iff_of_true rfl h
  plain_iff := iff_of_false (append_underscore_ne plain tail) (not_not_intro h)

theorem Tailed.same {wanted : Prop} (h : ¬ wanted) (plain tail : String) :
    Tailed ("_" ++ tail) wanted plain plain where
  tailed_iff := iff_of_false (append_underscore_ne plain tail).symm h
  plain_iff := iff_of_true rfl h

namespace Source

variable (s : Source) (kind experiment : String) (p : NamingPolicy)

theorem resourceName_eq :
    s.resourceName kind experiment p =
      s.resourceName kind experiment .unscoped ++ p.suffix s.branch experiment := by
  have hplain := NamingPolicy.suffix_of_not_scopes
    (NamingPolicy.not_unscoped_scopes s.branch experiment)
  simp only [resourceName, hplain, String.append_empty]

/-- The name of a resource has the id of the experiment as its tail exactly if the branch of its
source is scoped. -/
theorem resourceName_tailed :
    Tailed ("_" ++ experiment) (p.Scopes s.branch experiment)
      (s.resourceName kind experiment .unscoped) (s.resourceName kind experiment p) := by
  rw [s.resourceName_eq kind experiment p]
  by_cases h : p.Scopes s.branch experiment
  · rw [NamingPolicy.suffix_of_scopes h]
    exact .append h _ _
  · rw [NamingPolicy.suffix_of_not_scopes h, String.append_empty]
    exact .same h _ _

end Source

/-- Two routes are the same but for the names of their resources. -/
structure Route.SameButNames (r r' : Route) : Prop where
  measurement : r.measurement = r'.measurement
  slot : r.slot = r'.slot
  actionDescription : r.action.description = r'.action.description
  writeSyntax : r.action.writeSyntax = r'.action.writeSyntax
  ruleDescription : r.rule.description = r'.rule.description
  sql : r.rule.sql = r'.rule.sql

/-- All names of a route are those of a plain one, with a tail exactly if it is wanted, and its rule
feeds its action. -/
structure Route.NamesTailed (tail : String) (wanted : Prop) (plain r : Route) : Prop where
  actionName : Tailed tail wanted plain.action.name r.action.name
  ruleId : Tailed tail wanted plain.rule.id r.rule.id
  ruleName : Tailed tail wanted plain.rule.name r.rule.name
  feeds : r.rule.actionName = r.action.name

theorem Source.route_sameButNames (s : Source) (experiment : String) (p q : NamingPolicy) :
    (s.route experiment p).SameButNames (s.route experiment q) := by
  constructor <;> rfl

theorem Source.route_tailed (s : Source) (experiment : String) (p : NamingPolicy) :
    Route.NamesTailed ("_" ++ experiment) (p.Scopes s.branch experiment)
      (s.route experiment .unscoped) (s.route experiment p) where
  actionName := s.resourceName_tailed "action_" experiment p
  ruleId := s.resourceName_tailed "rule_id_" experiment p
  ruleName := s.resourceName_tailed "rule_" experiment p
  feeds := rfl

/-- The routes of an experiment under two policies are, place by place, the same but for names. The
names at each place are those without scopes, with the id of the experiment as their tail exactly if
the policy scopes the branch of the source there. -/
theorem CompleteExperiment.routes_tailed (e : CompleteExperiment) (p q : NamingPolicy) :
    List.Forall₂ Route.SameButNames (e.routes p) (e.routes q) ∧
    List.Forall₂
      (fun (s : Source) (r : Route × Route) =>
        Route.NamesTailed ("_" ++ e.id) (p.Scopes s.branch e.id) r.1 r.2)
      e.sources ((e.routes .unscoped).zip (e.routes p)) := by
  constructor
  · rw [routes, routes, List.forall₂_map_left_iff, List.forall₂_map_right_iff, List.forall₂_same]
    exact fun s _ => s.route_sameButNames e.id p q
  · rw [routes, routes, List.zip_map', List.forall₂_map_right_iff, List.forall₂_same]
    exact fun s _ => s.route_tailed e.id p

/-- A device that measures the wind on a service and on its whiteboard. -/
def mast : CompleteDevice where
  slot := "sensor_0"
  sensorId := "650000000000000000000001"
  name := "Mast"
  shortName := "Mast"
  address := "AA:01"
  services := [⟨"env", [⟨"Wind", "", { struct := some ⟨[⟨"v", none, none⟩]⟩ }, some "t/wind"⟩]⟩]
  whiteboard := [⟨"WIND!", "ms/wind", { single := some [⟨"v", none, none⟩] }⟩]

/-- An experiment with that device. -/
def mastExperiment (id : String) : CompleteExperiment := ⟨id, "", [mast]⟩

/-- The characteristic of the device. -/
def mastCharacteristic : Source :=
  ⟨mast, .structured "env", "Wind", "mast_wind", "t/wind", .struct ⟨[⟨"v", none, none⟩]⟩⟩

/-- The measure of the device. -/
def mastMeasure : Source :=
  ⟨mast, .whiteboard, "WIND!", "mast_wind", "ms/wind", .single [⟨"v", none, none⟩]⟩

theorem sources_mastExperiment (id : String) :
    (mastExperiment id).sources = [mastCharacteristic, mastMeasure] := by
  have h : (mastExperiment "").sources = [mastCharacteristic, mastMeasure] := by decide +kernel
  exact h

/-- Two policies that scope the one branch each. Both give the same routes but for their names, and
the id stands behind the names of the characteristic under the first policy, and behind those of the
measure under the second. -/
theorem routes_tailed_mast :
    let routes (p : NamingPolicy) := (mastExperiment "7").routes p
    let names (p : NamingPolicy) :=
      (routes p).map fun r => (r.action.name, r.rule.id, r.rule.name, r.rule.actionName)
    List.Forall₂ Route.SameButNames (routes .standard) (routes ⟨.global, .experiment⟩) ∧
    names .standard =
      [("action_mast_wind_7", "rule_id_mast_wind_7", "rule_mast_wind_7", "action_mast_wind_7"),
        ("action_mast_wind", "rule_id_mast_wind", "rule_mast_wind", "action_mast_wind")] ∧
    names ⟨.global, .experiment⟩ =
      [("action_mast_wind", "rule_id_mast_wind", "rule_mast_wind", "action_mast_wind"),
        ("action_mast_wind_7", "rule_id_mast_wind_7", "rule_mast_wind_7", "action_mast_wind_7")] :=
  ⟨((mastExperiment "7").routes_tailed .standard ⟨.global, .experiment⟩).1, by decide +kernel,
    by decide +kernel⟩

end Telemetry
