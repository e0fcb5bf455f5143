import Telemetry.Proofs.Dashboard
import Telemetry.Proofs.Decision
import Telemetry.Proofs.Gateway
import Telemetry.Proofs.Tour

/-!
# Dashboards whose series are read side by side

* `Dashboard.Comes`: what a dashboard can come to when its queries are carried out side by side.
* `Dashboard.independent`: if every answer depends on the query alone, no query makes a difference
  to another.
* `Dashboard.Comes.eq_build`: it then comes to what it comes to when one query is carried out after
  the other.
* `Dashboard.InOrder`: the series of all queries in their order, or the first failure among them.
* `Dashboard.comes_inOrder`: that is what a dashboard comes to, whatever the order of the answers.
-/

namespace Telemetry

namespace Dashboard

variable {σ : Type} {b : Backends σ} {s : DocumentStore × σ} {settings : Settings}
  {id service : String} {bound : Nat} {reply : SeriesQuery → Except Error TimeSeries}

/-! ## Side by side -/

/-- The queries of a dashboard, as they are about to be carried out. -/
def prepared (settings : Settings) (id service : String) : Operation (List QueryDescriptor) := do
  let qs ← queries settings id service
  Operation.log (building id service qs.length)
  return qs

theorem build_eq_prepared :
    build settings id service = prepared settings id service >>= readAll settings id := by
  simp [build, prepared]

/-- The event that tells of the queries has no part in what they are. -/
theorem result_prepared (b : Backends σ) (settings : Settings) (id service : String)
    (s : DocumentStore × σ) : Operation.result b.answer (prepared settings id service) s =
      Operation.result b.answer (queries settings id service) s := by
  unfold prepared
  cases hqs : Operation.result b.answer (queries settings id service) s with
  | error e => exact Operation.result_bind_of_error hqs _
  | ok qs => exact (Operation.result_bind_of_ok hqs _).trans rfl

/-- What a dashboard can come to when at most `bound` of its queries are open and unfinished: its
failure, if there are no queries to carry out, or what is decided at any point of any run in which
the backends answer. -/
inductive Comes (b : Backends σ) (settings : Settings) (id service : String) (bound : Nat)
    (s : DocumentStore × σ) : Except Error (List DashboardSeries) → Prop
  | unprepared {e : Error}
      (h : Operation.result b.answer (queries settings id service) s = .error e) :
      Comes b settings id service bound s (.error e)
  | decided {qs : List QueryDescriptor}
      {es : List (PoolEvent OperationStep OperationStep.Answer)}
      {p : Pool OperationStep OperationStep.Answer (Except Error DashboardSeries)}
      {r : Except Error (List DashboardSeries)}
      (h : Operation.result b.answer (queries settings id service) s = .ok qs)
      (runs : Pool.Runs bound (pool settings id qs) es p)
      (served : Pool.Served b.answer
        (Operation.after b.answer (prepared settings id service) s) es)
      (hr : p.decided? = some r) : Comes b settings id service bound s r

/-! ## Answers that depend on the query alone -/

section

variable (hreply : ∀ q t, (b.series q t).1 = reply q)
include hreply

/-- What comes of a query, in every state. -/
theorem result_readSeries (q : QueryDescriptor) (t : DocumentStore × σ) :
    Operation.result b.answer (readSeries settings id q) t =
      (reply (q.seriesQuery id settings.series.window)).map (DashboardSeries.mk q) := by
  have hseries : Operation.result b.answer
      (Operation.series (q.seriesQuery id settings.series.window)) t =
        reply (q.seriesQuery id settings.series.window) := hreply _ _
  unfold readSeries
  cases hr : reply (q.seriesQuery id settings.series.window) with
  | error e => exact Operation.result_bind_of_error (hseries.trans hr) _
  | ok x => exact (Operation.result_bind_of_ok (hseries.trans hr) _).trans rfl

/-- What comes of the queries one after the other. -/
theorem result_readAll (qs : List QueryDescriptor) (t : DocumentStore × σ) :
    Operation.result b.answer (readAll settings id qs) t = qs.mapM fun q =>
      (reply (q.seriesQuery id settings.series.window)).map (DashboardSeries.mk q) := by
  induction qs generalizing t with
  | nil => rfl
  | cons q qs ih =>
    have hq : Operation.result b.answer (readSeries settings id q) t =
        (reply (q.seriesQuery id settings.series.window)).map (DashboardSeries.mk q) :=
      result_readSeries hreply q t
    rw [readAll, List.mapM_cons]
    cases hr : (reply (q.seriesQuery id settings.series.window)).map (DashboardSeries.mk q) with
    | error e => exact Operation.result_bind_of_error (hq.trans hr) _
    | ok x =>
      refine (Operation.result_bind_of_ok (hq.trans hr) _).trans ?_
      specialize ih (Operation.after b.answer (readSeries settings id q) t)
      cases hrest : qs.mapM fun q =>
          (reply (q.seriesQuery id settings.series.window)).map (DashboardSeries.mk q) with
      | error e => exact Operation.result_bind_of_error (ih.trans hrest) _
      | ok xs => exact (Operation.result_bind_of_ok (ih.trans hrest) _).trans rfl

/-- No query makes a difference to another. -/
theorem independent (settings : Settings) (id : String) (qs : List QueryDescriptor) :
    Independent b.answer (qs.map fun q => (readSeries settings id q).run)
      (fun _ step => ∃ q, step = .series q) fun _ _ _ => True where
  equivalence _ := ⟨fun _ => trivial, fun _ => trivial, fun _ _ => trivial⟩
  asksOnly hd := by
    obtain ⟨q, -, rfl⟩ := List.mem_map.mp (List.mem_of_getElem? hd)
    exact (asksOnly_readSeries q).mono fun step h => ⟨_, h⟩
  answer_eq := by
    rintro _ _ s t ⟨q, rfl⟩ -
    exact (hreply q s.2).trans (hreply q t.2).symm
  answer_alike _ _ := trivial
  frame _ _ _ := trivial

/-- A dashboard comes to what it comes to when one query is carried out after the other. -/
theorem Comes.eq_build {r : Except Error (List DashboardSeries)}
    (h : Comes b settings id service bound s r) :
    r = Operation.result b.answer (build settings id service) s := by
  rw [build_eq_prepared]
  cases h with
  | unprepared h =>
    exact (Operation.result_bind_of_error ((result_prepared ..).trans h) _).symm
  | @decided qs es p _ h runs served hr =>
    rw [Operation.result_bind_of_ok ((result_prepared ..).trans h), result_readAll hreply,
      ← (independent hreply settings id qs).decided_eq runs served hr, List.mapM_map]
    exact congrArg (List.mapM · qs) (funext fun q => result_readSeries hreply q _)

omit hreply in
/-- Every run of the queries goes on to a decision. -/
theorem exists_decision (hb : 0 < bound)
    {p : Pool OperationStep OperationStep.Answer (Except Error DashboardSeries)}
    {es : List (PoolEvent OperationStep OperationStep.Answer)} {t : DocumentStore × σ}
    (hs : Pool.Served b.answer t es) : ∃ es' p' r, Pool.Runs bound p es' p' ∧
      Pool.Served b.answer t (es ++ es') ∧ p'.decided? = some r := by
  obtain ⟨es', p', hruns, hfinished, hserved⟩ := Pool.exists_served_end hb p hs
  obtain ⟨r, hr⟩ := Pool.exists_decided hfinished
  exact ⟨es', p', r, hruns, hserved, hr⟩

omit hreply in
theorem exists_comes (hb : 0 < bound) : ∃ r, Comes b settings id service bound s r := by
  cases hqs : Operation.result b.answer (queries settings id service) s with
  | error e => exact ⟨_, .unprepared hqs⟩
  | ok qs =>
    obtain ⟨es, p, r, hruns, hserved, hr⟩ := exists_decision hb (p := pool settings id qs)
      (b := b) (Pool.served_nil (Operation.after b.answer (prepared settings id service) s))
    exact ⟨r, .decided hqs hruns hserved hr⟩

end

/-! ## The order of the queries -/

/-- The series of all queries in their order, each under its own query, if all can be read, and
otherwise the failure of the first query that cannot. -/
structure InOrder (reply : QueryDescriptor → Except Error TimeSeries) (qs : List QueryDescriptor)
    (r : Except Error (List DashboardSeries)) : Prop where
  succeeds_iff : (∃ xs, r = .ok xs) ↔ ∀ q ∈ qs, ∃ x, reply q = .ok x
  paired : ∀ xs, r = .ok xs →
    List.Forall₂ (fun q x => x.query = q ∧ reply q = .ok x.series) qs xs
  failure : ∀ e, r = .error e → ∃ pre q post, qs = pre ++ q :: post ∧
    (∀ q' ∈ pre, ∃ x, reply q' = .ok x) ∧ reply q = .error e

theorem inOrder_mapM (reply : QueryDescriptor → Except Error TimeSeries)
    (qs : List QueryDescriptor) :
    InOrder reply qs (qs.mapM fun q => (reply q).map (DashboardSeries.mk q)) := by
  have hok : ∀ q x, (reply q).map (DashboardSeries.mk q) = .ok x ↔
      x.query = q ∧ reply q = .ok x.series := by
    rintro q ⟨q', series⟩
    cases reply q <;> simp [Except.map, eq_comm]
  have hread : ∀ q, (∃ x, (reply q).map (DashboardSeries.mk q) = .ok x) ↔
      ∃ x, reply q = .ok x := by
    intro q
    cases reply q <;> simp [Except.map]
  have herror : ∀ q e, (reply q).map (DashboardSeries.mk q) = .error e ↔ reply q = .error e := by
    intro q e
    cases reply q <;> simp [Except.map]
  constructor
  case succeeds_iff => simp only [exists_mapM_eq_ok_iff, hread]
  case paired =>
    intro xs h
    exact (mapM_eq_ok_iff.mp h).imp fun q x hx => (hok q x).mp hx
  case failure =>
    intro e h
    obtain ⟨pre, q, post, hqs, hpre, hq⟩ := mapM_eq_error_iff.mp h
    exact ⟨pre, q, post, hqs, fun q' hq' => (hread q').mp (hpre q' hq'), (herror q e).mp hq⟩

/-- If every answer depends on the query alone, a dashboard comes to one thing: its failure, if there
are no queries to carry out, and otherwise the series of all queries in their order or the first
failure among them. That is what it comes to when one query is carried out after the other. It comes
to it whatever the order of the answers, and every run goes on until it has. -/
theorem comes_inOrder (hreply : ∀ q t, (b.series q t).1 = reply q) (hb : 0 < bound)
    (settings : Settings) (id service : String) (s : DocumentStore × σ) :
    (∃ r, Comes b settings id service bound s r) ∧
    (∀ r, Comes b settings id service bound s r →
      r = Operation.result b.answer (build settings id service) s) ∧
    (∀ e, Operation.result b.answer (queries settings id service) s = .error e →
      ∀ r, Comes b settings id service bound s r → r = .error e) ∧
    ∀ qs, Operation.result b.answer (queries settings id service) s = .ok qs →
      (∀ r, Comes b settings id service bound s r →
        InOrder (fun q => reply (q.seriesQuery id settings.series.window)) qs r) ∧
      ∀ es p, Pool.Runs bound (pool settings id qs) es p →
        Pool.Served b.answer (Operation.after b.answer (prepared settings id service) s) es →
        ∃ es' p' r, Pool.Runs bound p es' p' ∧
          Pool.Served b.answer (Operation.after b.answer (prepared settings id service) s)
            (es ++ es') ∧ p'.decided? = some r := by
  refine ⟨exists_comes hb, fun r hr => hr.eq_build hreply, fun e he r hr => ?_,
    fun qs hqs => ⟨fun r hr => ?_, fun es p _ hs => exists_decision hb hs⟩⟩
  · rw [hr.eq_build hreply, build_eq_prepared]
    exact Operation.result_bind_of_error ((result_prepared ..).trans he) _
  · rw [hr.eq_build hreply, build_eq_prepared,
      Operation.result_bind_of_ok ((result_prepared ..).trans hqs), result_readAll hreply]
    exact inOrder_mapM _ qs

/-! ## Answers out of order -/

/-- A sensor with one characteristic of two fields. -/
def psychrometer : Document :=
  [("_id", .text "650000000000000000000001"), ("name", .text "Psychro"),
    ("services", .list [.object [
      ("characteristics", .list [.object [("name", .text "Air"),
        ("structParser", .object [("fields", .list [.object [("name", .text "dry")],
          .object [("name", .text "wet")]])])]]),
      ("uuid", .text "env")]]),
    ("shortName", .text "ps")]

/-- Backends whose series tell which field was asked for. -/
def telling : Backends Unit :=
  { quiet with series := fun q _ => (.ok ⟨[q.field], [⟨0⟩]⟩, ()) }

/-- Two queries are carried out at a time, and the second is finished first. The series are in the
order of the queries all the same, and each is that of its own query. -/
theorem comes_inOrder_psychrometer :
    ∃ qs es p xs, Operation.result telling.answer
        (queries .standard Experiments.experimentId.toHex "env")
        (Experiments.furnishedWith psychrometer greenhouse) = .ok qs ∧
      Pool.Runs 2 (pool .standard Experiments.experimentId.toHex qs) es p ∧
      (p.completed.filterMap Except.toOption).map (·.query.field) = ["wet", "dry"] ∧
      Comes telling .standard Experiments.experimentId.toHex "env" 2
        (Experiments.furnishedWith psychrometer greenhouse) (.ok xs) ∧
      xs.map (·.query.field) = ["dry", "wet"] ∧
      List.Forall₂ (fun q x => x.query = q ∧ TimeSeries.mk [q.field] [⟨0⟩] = x.series) qs xs := by
  let s := Experiments.furnishedWith psychrometer greenhouse
  let t₀ := Operation.after telling.answer
    (prepared .standard Experiments.experimentId.toHex "env") s
  let course (qs : List QueryDescriptor) := do
    -- Both queries are opened and asked, and then the second is answered first.
    let t ← (Tour.start (pool .standard Experiments.experimentId.toHex qs) t₀).visits
      telling.answer 2 [0, 1, 0, 1, 1, 0]
    return (t, ← t.pool.decided?)
  have hcourse : (Operation.result telling.answer
      (queries .standard Experiments.experimentId.toHex "env") s).map (fun qs =>
        (course qs).map fun (t, r) =>
          ((t.pool.completed.filterMap Except.toOption).map (·.query.field),
            r.map fun xs => xs.map (·.query.field))) =
      .ok (some (["wet", "dry"], .ok ["dry", "wet"])) := by
    decide +kernel
  obtain ⟨qs, hqs, hcourse⟩ := map_eq_ok_iff.mp hcourse
  obtain ⟨⟨t, r⟩, ht, hfields⟩ := Option.map_eq_some_iff.mp hcourse
  obtain ⟨hcompleted, hr⟩ := Prod.mk.inj hfields
  obtain ⟨xs, rfl, hxs⟩ := map_eq_ok_iff.mp hr
  obtain ⟨t', hvisits, ht⟩ := Option.bind_eq_some_iff.mp ht
  obtain ⟨r', hdecided, ht⟩ := Option.bind_eq_some_iff.mp ht
  obtain ⟨rfl, rfl⟩ := Prod.mk.inj (Option.some.inj ht)
  obtain ⟨hruns, hserved⟩ := Tour.runs hvisits
  have hcomes : Comes telling .standard Experiments.experimentId.toHex "env" 2 s (.ok xs) :=
    .decided hqs hruns hserved hdecided
  have hreply : ∀ q t, (telling.series q t).1 = .ok ⟨[q.field], [⟨0⟩]⟩ := fun _ _ => rfl
  obtain ⟨-, -, -, hall⟩ := comes_inOrder hreply Nat.two_pos .standard
    Experiments.experimentId.toHex "env" s
  have hpaired := ((hall qs hqs).1 _ hcomes).paired xs rfl
  exact ⟨qs, _, _, xs, hqs, hruns, hcompleted, hcomes, hxs,
    hpaired.imp fun q x hx => ⟨hx.1, Except.ok.inj hx.2⟩⟩

end Dashboard

end Telemetry
