import Telemetry.Proofs.Naming
import Telemetry.Proofs.Policy
import Telemetry.Proofs.Separated

/-!
# What a name identifies

The name of a resource is a word for its kind, two plain parts with an underscore between them, and
for a scoped resource another underscore and the id of the experiment, which may have underscores of
its own.

* `Identity`: the parts that the names of a source's resources are made of; `Identity.read` takes
  the parts out of a name, `Identity.read_text` says that it finds them.
* `Source.resourceName_eq_iff`: names of one kind are equal exactly if the parts are.
* `Route.Apart`: routes that neither share a resource nor feed each other's.
* `resources_identified`: which routes share their resources, whatever their experiments and
  policies, and that scoped routes of different experiments are apart.
-/

namespace Telemetry

/-- The id of the experiment, if the names of a branch carry it. -/
def NamingPolicy.experiment? (p : NamingPolicy) (b : Branch) (experiment : String) :
    Option String :=
  if p.Scopes b experiment then some experiment else none

/-- What the names of a source's resources are made of. -/
structure Identity where
  shortName : String
  name : String
  experiment : Option String
  deriving DecidableEq

namespace Identity

/-- The parts of an identity with underscores between them. -/
def text (i : Identity) : String :=
  i.shortName ++ "_" ++ i.name ++ i.experiment.elim "" ("_" ++ ·)

/-- The first two parts end at the first two underscores, and the rest is the id. -/
def read (name : String) : Identity :=
  let rest := (name.toList.dropWhile (· != '_')).tail
  { shortName := String.ofList (name.toList.takeWhile (· != '_'))
    name := String.ofList (rest.takeWhile (· != '_'))
    experiment := match rest.dropWhile (· != '_') with
      | [] => none
      | _ :: id => some (String.ofList id) }

/-- An identity is read back if its first two parts have no underscores. -/
theorem read_text {i : Identity} (hshort : '_' ∉ i.shortName.toList)
    (hname : '_' ∉ i.name.toList) : read i.text = i := by
  obtain ⟨shortName, name, experiment⟩ := i
  have htext : (text ⟨shortName, name, experiment⟩).toList =
      shortName.toList ++ '_' :: (name.toList ++ (experiment.elim "" ("_" ++ ·)).toList) := by
    simp [text]
  rw [read, htext, takeWhile_mark hshort, dropWhile_mark hshort, List.tail_cons]
  cases experiment with
  | none => simp [takeWhile_unmarked hname, dropWhile_unmarked hname]
  | some id => simp [takeWhile_mark hname, dropWhile_mark hname]

end Identity

namespace Source

/-- What the names of a source's resources are made of. -/
def identity (s : Source) (experiment : String) (p : NamingPolicy) : Identity where
  shortName := sanitize s.device.shortName
  name := sanitize s.name
  experiment := p.experiment? s.branch experiment

theorem read_identity (s : Source) (experiment : String) (p : NamingPolicy) :
    Identity.read (s.identity experiment p).text = s.identity experiment p :=
  Identity.read_text (notMem_sanitize (by decide) _) (notMem_sanitize (by decide) _)

theorem resourceName_eq_text {e : CompleteExperiment} {s : Source} (hs : s ∈ e.sources)
    (kind : String) (p : NamingPolicy) :
    s.resourceName kind e.id p = kind ++ (s.identity e.id p).text := by
  obtain ⟨-, -, hmeasurement⟩ := measurementName_eq_some_iff.mp (e.measurementName_eq hs)
  have hsuffix : p.suffix s.branch e.id = (p.experiment? s.branch e.id).elim "" ("_" ++ ·) := by
    unfold NamingPolicy.experiment?
    split
    · next h => rw [NamingPolicy.suffix_of_scopes h, Option.elim_some]
    · next h => rw [NamingPolicy.suffix_of_not_scopes h, Option.elim_none]
  rw [resourceName, hmeasurement, hsuffix, String.append_assoc]
  rfl

/-- Names of one kind are equal exactly if they are made of the same parts. -/
theorem resourceName_eq_iff {e e' : CompleteExperiment} {s s' : Source} (hs : s ∈ e.sources)
    (hs' : s' ∈ e'.sources) (kind : String) (p p' : NamingPolicy) :
    s.resourceName kind e.id p = s'.resourceName kind e'.id p' ↔
      s.identity e.id p = s'.identity e'.id p' := by
  rw [resourceName_eq_text hs, resourceName_eq_text hs', String.append_right_inj]
  constructor
  · intro h
    rw [← s.read_identity, h, s'.read_identity]
  · exact congrArg Identity.text

end Source

/-- Two routes share no resource, and the rule of neither feeds the action of the other. -/
structure Route.Apart (r r' : Route) : Prop where
  actionName : r.action.name ≠ r'.action.name
  ruleId : r.rule.id ≠ r'.rule.id
  ruleName : r.rule.name ≠ r'.rule.name
  feeds : r.rule.actionName ≠ r'.action.name
  fed : r'.rule.actionName ≠ r.action.name

/-- Sources of different identities have routes that are apart. -/
theorem Source.route_apart {e e' : CompleteExperiment} {p p' : NamingPolicy} {s s' : Source}
    (hs : s ∈ e.sources) (hs' : s' ∈ e'.sources)
    (h : s.identity e.id p ≠ s'.identity e'.id p') :
    (s.route e.id p).Apart (s'.route e'.id p') := by
  have hname : ∀ kind, s.resourceName kind e.id p ≠ s'.resourceName kind e'.id p' := fun kind =>
    (Source.resourceName_eq_iff hs hs' kind p p').not.mpr h
  exact ⟨hname _, hname _, hname _, hname _, (hname _).symm⟩

/-- Whatever their experiments and the policies, two sources share the name of the action exactly if
they share the id of the rule, exactly if they share its name, and exactly if their short names and
names are the same when sanitized and both carry the same id, or neither an id. So the routes of
scoped sources of different experiments are apart, and those of a scoped and an unscoped source. -/
theorem resources_identified {e e' : CompleteExperiment} {s s' : Source}
    (hs : s ∈ e.sources) (hs' : s' ∈ e'.sources) (p p' : NamingPolicy) :
    ((s.route e.id p).action.name = (s'.route e'.id p').action.name ↔
      s.identity e.id p = s'.identity e'.id p') ∧
    ((s.route e.id p).rule.id = (s'.route e'.id p').rule.id ↔
      s.identity e.id p = s'.identity e'.id p') ∧
    ((s.route e.id p).rule.name = (s'.route e'.id p').rule.name ↔
      s.identity e.id p = s'.identity e'.id p') ∧
    (p.Scopes s.branch e.id → p'.Scopes s'.branch e'.id → e.id ≠ e'.id →
      (s.route e.id p).Apart (s'.route e'.id p')) ∧
    (p.Scopes s.branch e.id → ¬ p'.Scopes s'.branch e'.id →
      (s.route e.id p).Apart (s'.route e'.id p')) := by
  have hname := Source.resourceName_eq_iff hs hs'
  refine ⟨hname _ p p', hname _ p p', hname _ p p', fun hscoped hscoped' hne => ?_,
    fun hscoped hunscoped => ?_⟩
  · refine Source.route_apart hs hs' fun h => hne ?_
    simpa [Source.identity, NamingPolicy.experiment?, hscoped, hscoped'] using
      congrArg Identity.experiment h
  · refine Source.route_apart hs hs' fun h => ?_
    simpa [Source.identity, NamingPolicy.experiment?, hscoped, hunscoped] using
      congrArg Identity.experiment h

/-- Two experiments keep their routes to the characteristic apart, also from the routes to the
measure, and share the action of the measure. -/
theorem resources_identified_mast :
    ((mastCharacteristic.route "7" .standard).Apart (mastCharacteristic.route "7_1" .standard)) ∧
    ((mastCharacteristic.route "7" .standard).Apart (mastMeasure.route "7_1" .standard)) ∧
    (mastMeasure.route "7" .standard).action.name =
      (mastMeasure.route "7_1" .standard).action.name := by
  have hmem : ∀ id, mastCharacteristic ∈ (mastExperiment id).sources ∧
      mastMeasure ∈ (mastExperiment id).sources := fun id => by simp [sources_mastExperiment]
  have hscoped : ∀ id, id ≠ "" → NamingPolicy.standard.Scopes mastCharacteristic.branch id :=
    fun id hid => ⟨rfl, hid⟩
  obtain ⟨-, -, -, hscopes, -⟩ :=
    resources_identified (hmem "7").1 (hmem "7_1").1 .standard .standard
  obtain ⟨-, -, -, -, hplain⟩ :=
    resources_identified (hmem "7").1 (hmem "7_1").2 .standard .standard
  obtain ⟨hname, -⟩ := resources_identified (hmem "7").2 (hmem "7_1").2 .standard .standard
  refine ⟨hscopes (hscoped _ (by decide)) (hscoped _ (by decide)) (by decide),
    hplain (hscoped _ (by decide)) (by decide), hname.mpr (by decide +kernel)⟩

end Telemetry
