import Telemetry.Proofs.Sync.Account
import Telemetry.Proofs.Sync.Schedule

/-!
# Every sync accounts for its routes

A sync lists the actions of the broker, and only then writes routes. If it writes one group after
the other, it does what a pool does in which one dialogue is open at a time.

* `Pool.answers`, `Pool.runs_of_plays`: dialogues one after the other are a run of a pool.
* `plays_listing`: what comes of a sync that writes one group after the other.
* `sync_accounts`: a sync that cannot list the actions does nothing else; every other one comes to
  its end, however its groups are written, with a report that accounts for the routes.
-/

namespace Telemetry

namespace Pool

variable {Q : Type} {A : Q → Type} {α : Type} {bound : Nat}

/-- The answers of all places, each with its question, in the order in which they came. -/
def answers (es : List (PoolEvent Q A)) : List (Exchange Q A) :=
  es.filterMap fun
    | .answered _ q x => some ⟨q, x⟩
    | .opened _ | .asked .. => none

/-- A dialogue that is open may be carried out to its end before anything else happens. -/
theorem runs_advance {d d' : Dialogue Q A α} {l : List (Exchange Q A)} (h : d.Plays l d') {a : α}
    (hd' : d' = .done a) (p : Pool Q A α) {i : Nat} (hi : i < p.members.length) :
    ∃ es, Runs bound (p.advance i d) es ⟨p.members.set i (.finished a), p.completed ++ [a]⟩ ∧
      answers es = l := by
  induction h generalizing p with
  | nil d =>
    subst hd'
    exact ⟨[], .refl _, rfl⟩
  | @cons q next x l d' h ih =>
    let asked := (p.advance i (.ask q next)).await i q next
    have hready : (p.advance i (.ask q next)).members[i]? = some (.ready q next) := by
      simp [advance, hi]
    have hpending : asked.members[i]? = some (.pending q next) := by
      simp [asked, await, advance, hi]
    have hset : asked.members.set i (.finished a) = p.members.set i (.finished a) := by
      simp [asked, await, advance]
    obtain ⟨es, hruns, rfl⟩ := ih hd' asked (by simpa [asked, await, advance] using hi)
    rw [hset] at hruns
    exact ⟨_, .step (.asked hready) (.step (.answered x hpending) hruns), rfl⟩

/-- Dialogues that nobody has opened may be carried out one after the other. -/
theorem runs_halfway (hb : 0 < bound) {ds : List (Dialogue Q A α)} (as : List α) {bs : List α}
    {l : List (Exchange Q A)} (h : (ds.mapM id).Plays l (.done bs)) :
    ∃ es, Runs bound (halfway as ds) es (halfway (as ++ bs) []) ∧ answers es = l := by
  induction ds generalizing as bs l with
  | nil =>
    obtain ⟨rfl, rfl⟩ := Dialogue.plays_pure h
    exact ⟨[], by simpa using Runs.refl _, rfl⟩
  | cons d ds ih =>
    rw [List.mapM_cons] at h
    obtain ⟨l₁, a, l₂, rfl, h₁, h₂⟩ := h.bind_inv
    obtain ⟨l₃, rest, l₄, rfl, h₃, h₄⟩ := Dialogue.Plays.bind_inv h₂
    obtain ⟨rfl, rfl⟩ := Dialogue.plays_pure h₄
    have hlt : as.length < (halfway as (d :: ds)).members.length := by simp [halfway]
    obtain ⟨es, hes, rfl⟩ := runs_advance h₁ rfl (halfway as (d :: ds)) hlt
    obtain ⟨es', hes', rfl⟩ := ih (as ++ [a]) h₃
    have hfinish := finish_halfway as d ds a
    refine ⟨.opened as.length :: es ++ es', ?_, by simp [answers]⟩
    have hall := (Runs.step (step_halfway hb as d ds) (hfinish ▸ hes)).append hes'
    simpa using hall

/-- Dialogues one after the other are a run of a pool. -/
theorem runs_of_plays (hb : 0 < bound) {ds : List (Dialogue Q A α)} {as : List α}
    {l : List (Exchange Q A)} (h : (ds.mapM id).Plays l (.done as)) :
    ∃ es p, Runs bound (ofDialogues ds) es p ∧ p.isFinished = true ∧ p.completed = as ∧
      answers es = l := by
  obtain ⟨es, hruns, hanswers⟩ := runs_halfway hb [] h
  exact ⟨es, _, hruns, isFinished_halfway _, rfl, hanswers⟩

end Pool

namespace Sync

variable {connector : String} {rs : List Route}

/-- The actions of the broker are listed, and this is the answer. -/
def listing (x : Except Error (List RemoteAction)) : SyncExchange := ⟨.request .listActions, x⟩

/-- What comes of a sync that writes one group after the other: it fails if and only if the actions
cannot be listed, and then it makes no other request; otherwise it does what a pool does in which
one group is open at a time, and tells of the report. -/
theorem plays_listing {l : List SyncExchange} {result : Except Error Report}
    (h : (Telemetry.sync connector rs).Plays l (.done result)) :
    (∃ e, l = [listing (.error e)] ∧ result = .error e) ∨
    ∃ listed es q report,
      l = listing (.ok listed) :: (Pool.answers es ++ [logged (finished report)]) ∧
      Pool.Runs 1 (pool listed connector rs) es q ∧ report? q = some report ∧
      result = .ok report := by
  obtain ⟨l₁, answer, l₂, rfl, h₁, h₂⟩ := h.bind_inv
  obtain rfl := Dialogue.plays_question h₁
  match answer with
  | .error e =>
    obtain ⟨rfl, rfl⟩ := Dialogue.plays_pure h₂
    exact .inl ⟨e, rfl, rfl⟩
  | .ok listed =>
    obtain ⟨l₃, report, l₄, rfl, h₃, h₄⟩ := Dialogue.Plays.bind_inv h₂
    obtain ⟨rfl, rfl⟩ := Dialogue.plays_pure h₄
    obtain ⟨l₅, outcomes, l₆, rfl, h₅, h₆⟩ := Dialogue.Plays.bind_inv h₃
    obtain ⟨l₇, _, l₈, rfl, h₇, h₈⟩ := Dialogue.Plays.bind_inv h₆
    obtain ⟨rfl, rfl⟩ := Dialogue.plays_pure h₈
    obtain rfl := Dialogue.plays_question h₇
    rw [syncGroups_eq_mapM, ← bind_pure_comp] at h₅
    obtain ⟨l₉, results, l₀, rfl, h₉, h₀⟩ := Dialogue.Plays.bind_inv h₅
    obtain ⟨rfl, rfl⟩ := Dialogue.plays_pure h₀
    obtain ⟨es, q, hruns, hfinished, rfl, rfl⟩ := Pool.runs_of_plays Nat.one_pos h₉
    refine .inr ⟨listed, es, q, .ofOutcomes q.completed.flatten, ?_, hruns, if_pos hfinished, rfl⟩
    simp [listing, logged]

/-- A sync fails if and only if the actions of the broker cannot be listed, and then it makes no
other request. Otherwise, whatever was listed, whatever the broker answers, whenever the caller
gives up and however many groups are written side by side in whatever order: there is no endless
run, a run that is not finished can go on, and the report of a finished run accounts for the
routes. To write one group after the other is one of these runs. -/
theorem sync_accounts (connector : String) (rs : List Route) :
    (∀ l result, (Telemetry.sync connector rs).Plays l (.done result) →
      (∃ e, l = [listing (.error e)] ∧ result = .error e) ∨
      ∃ listed es q report,
        l = listing (.ok listed) :: (Pool.answers es ++ [logged (finished report)]) ∧
        Pool.Runs 1 (pool listed connector rs) es q ∧ report? q = some report ∧
        result = .ok report) ∧
    ∀ (listed : List RemoteAction) (bound : Nat), 0 < bound →
      (WellFounded fun p' p : SyncPool => ∃ e, Pool.Step bound p e p') ∧
      ∀ es q, Pool.Runs bound (pool listed connector rs) es q →
        (q.isFinished = false → ∀ reply : Nat → (s : SyncStep) → s.Answer, ∃ e q',
          Pool.Step bound q e q' ∧ ∀ i s x, e = .answered i s x → x = reply i s) ∧
        (q.isFinished = true → ∃ report course, report? q = some report ∧
          Accounts listed connector rs es report course) := by
  refine ⟨fun l result h => plays_listing h, fun listed bound hb =>
    ⟨Pool.wellFounded_step bound, fun es q hr => ⟨fun hq => Pool.exists_step hb hq, ?_⟩⟩⟩
  exact report_accounts hr

/-- A broker that cannot list its actions nor create one of them and refuses every rule, but accepts
everything else, and a caller who gives up after three looks. -/
def unreliable : (q : SyncStep) → Nat → q.Answer × Nat
  | .isCancelled, looks => (decide (3 ≤ looks), looks + 1)
  | .request .listActions, looks =>
    ((.error (.transport "lost") : Except Error (List RemoteAction)), looks)
  | .request (.createAction body), looks =>
    ((if body.name = some "action_th_h_6500000000000000000000aa" then .error (.transport "lost")
      else .ok () : Except Error Unit), looks)
  | .request (.createRule _), looks =>
    ((.ok (.rejected 400 "ALREADY_EXISTS") : Except Error RuleCreation), looks)
  | q, looks => ((accepted q ()).1, looks)

/-- Two groups side by side: the first route is written, with its rule replaced, the action of the
second one is not created, and the third one, of the first group, is left out. The report tells
so. -/
theorem sync_accounts_threeStreams :
    (∃ l result, (Telemetry.sync "influx" (threeStreams.routes .standard)).Plays l (.done result) ∧
      ∃ e, l = [listing (.error e)] ∧ result = .error e) ∧
    ∃ es q report course,
      Pool.Runs 2 (pool [] "influx" (threeStreams.routes .standard)) es q ∧
      report? q = some report ∧
      Accounts [] "influx" (threeStreams.routes .standard) es report course ∧
      report.outcomes.map (·.status) = [.synced .create .updated,
        .failed .action (.transport "lost"),
        .failed .action (skipped "action_th_t_6500000000000000000000aa")] := by
  let tour := (Tour.start (pool [] "influx" (threeStreams.routes .standard)) 0).visits
    unreliable 2 ((List.replicate 7 [0, 1]).flatten ++ List.replicate 10 0)
  have hend : tour.map (fun t => (t.pool.isFinished,
      t.pool.completed.flatten.map fun x => (x.1, x.2.status))) =
    some (true, [(1, .failed .action (.transport "lost")), (0, .synced .create .updated),
      (2, .failed .action (skipped "action_th_t_6500000000000000000000aa"))]) := by
    decide +kernel
  obtain ⟨t, ht, hvalues⟩ := Option.map_eq_some_iff.mp hend
  obtain ⟨hfinished, hcompleted⟩ := Prod.mk.inj hvalues
  obtain ⟨hruns, -⟩ := Tour.runs ht
  obtain ⟨hlisting, hpool⟩ := sync_accounts "influx" (threeStreams.routes .standard)
  obtain ⟨report, course, hreport, haccounts⟩ :=
    ((hpool [] 2 Nat.two_pos).2 t.events t.pool hruns).2 hfinished
  have hplays : (Telemetry.sync "influx" (threeStreams.routes .standard)).Plays
      [listing (.error (.transport "lost"))] (.done (.error (.transport "lost"))) := .cons (.nil _)
  refine ⟨⟨_, _, hplays, (hlisting _ _ hplays).resolve_right ?_⟩,
    t.events, t.pool, report, course, hruns, hreport, haccounts, ?_⟩
  · rintro ⟨listed, es, q, report, hl, -⟩
    cases hl
  · obtain rfl : Report.ofOutcomes t.pool.completed.flatten = report := by
      simpa [report?, hfinished] using hreport
    calc (Report.ofOutcomes t.pool.completed.flatten).outcomes.map (·.status)
        = ((t.pool.completed.flatten.map fun x => (x.1, x.2.status)).mergeSort
            fun x y => x.1 ≤ y.1).map (·.2) := by
          rw [← List.map_mergeSort (r := fun x y => x.1 ≤ y.1) (by simp), List.map_map,
            Report.ofOutcomes, List.map_map]
          rfl
      _ = _ := by
          rw [hcompleted]
          simp [List.mergeSort, List.MergeSort.Internal.splitInTwo]

end Sync

end Telemetry
