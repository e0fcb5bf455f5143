import Telemetry.Proofs.Sync.Keeper
import Telemetry.Proofs.Sync.Schedule

/-!
# Writing one group after the other

* `Pool.Leads`: what may happen in a pool from one state of the surroundings to another.
* `Pool.leads_ofDialogues`: to carry out dialogues one after the other is one of these.
* `Keeper.sync_syncs`: so a sync that writes one group after the other is one of the ways to write
  them side by side.
-/

namespace Telemetry

namespace Pool

open Surroundings

variable {Q : Type} {A : Q → Type} {α σ : Type} {answer : (q : Q) → σ → A q × σ} {bound : Nat}
  {p p' p'' : Pool Q A α} {qs qs' : List Q} {s t t' t'' : σ}

/-- Whatever has happened since the state `s`: when the surroundings are in the state `t`, the pool
`p` may ask `qs` and become `p'`, and then they are in the state `t'`. -/
def Leads (answer : (q : Q) → σ → A q × σ) (bound : Nat) (s : σ) (p : Pool Q A α) (t : σ)
    (qs : List Q) (p' : Pool Q A α) (t' : σ) : Prop :=
  ∀ es, Served answer s es → (after answer s es).state = t →
    ∃ es', Runs bound p es' p' ∧ Served answer s (es ++ es') ∧ questions es' = qs ∧
      (after answer s (es ++ es')).state = t'

theorem Leads.refl (p : Pool Q A α) (t : σ) : Leads answer bound s p t [] p t := by
  intro es hs ht
  exact ⟨[], .refl p, by simpa using hs, rfl, by simpa using ht⟩

theorem Leads.trans (h : Leads answer bound s p t qs p' t')
    (h' : Leads answer bound s p' t' qs' p'' t'') :
    Leads answer bound s p t (qs ++ qs') p'' t'' := by
  intro es hs ht
  obtain ⟨es₁, hruns₁, hs₁, rfl, ht₁⟩ := h es hs ht
  obtain ⟨es₂, hruns₂, hs₂, rfl, ht₂⟩ := h' _ hs₁ ht₁
  exact ⟨es₁ ++ es₂, hruns₁.append hruns₂, by simpa using hs₂, questions_append .., by simpa using ht₂⟩

/-- A dialogue may be opened. -/
theorem Leads.opened {i : Nat} (h : Step bound p (.opened i) p') (t : σ) :
    Leads answer bound s p t [] p' t := by
  intro es hs ht
  refine ⟨[.opened i], .step h (.refl _), hs.concat (by simp), rfl, ?_⟩
  rw [after_concat]
  exact ht

/-- A dialogue may ask and be answered before anything else happens. -/
theorem Leads.question {i : Nat} {q : Q} {next : A q → Dialogue Q A α}
    (place : p.members[i]? = some (.ready q next)) (t : σ) :
    Leads answer bound s p t [q] ((p.await i q next).advance i (next (answer q t).1))
      (answer q t).2 := by
  intro es hs ht
  have hi := (List.getElem?_eq_some_iff.mp place).1
  have hpending : (p.await i q next).members[i]? = some (.pending q next) := by simp [await, hi]
  have hafter : after answer s (es ++ [.asked i q]) =
      ⟨(answer q t).2, Function.update (after answer s es).seen i t⟩ := by
    rw [after_concat, Surroundings.next, ht]
  refine ⟨[.asked i q, .answered i q (answer q t).1],
    .step (.asked place) (.step (.answered _ hpending) (.refl _)), ?_, rfl, ?_⟩
  · rw [List.append_cons]
    refine (hs.concat (by simp)).concat ?_
    rintro j q' x ⟨⟩
    simp [hafter]
  · rw [List.append_cons, after_concat, hafter]
    rfl

/-- A dialogue that goes on as `d` may be carried out to its end before anything else happens. -/
theorem leads_advance (d : Dialogue Q A α) (p : Pool Q A α) {i : Nat} (hi : i < p.members.length)
    (t : σ) : Leads answer bound s (p.advance i d) t (d.questions answer t)
      ⟨p.members.set i (.finished (d.run answer t).1), p.completed ++ [(d.run answer t).1]⟩
      (d.run answer t).2 := by
  induction d generalizing p t with
  | done a => exact .refl _ t
  | ask q next ih =>
    let asked := (p.advance i (.ask q next)).await i q next
    have hready : (p.advance i (.ask q next)).members[i]? = some (.ready q next) := by
      simp [advance, hi]
    have hset : ∀ m, asked.members.set i m = p.members.set i m := by
      simp [asked, await, advance]
    have hasked : i < asked.members.length := by simpa [asked, await, advance] using hi
    have hrest := ih (answer q t).1 asked hasked (answer q t).2
    rw [hset] at hrest
    exact (Leads.question hready t).trans hrest

variable (answer) in
/-- Dialogues that nobody has opened may be carried out one after the other. -/
theorem leads_halfway (hb : 0 < bound) (ds : List (Dialogue Q A α)) (as : List α) (t : σ) :
    Leads answer bound s (halfway as ds) t ((ds.mapM id).questions answer t)
      (halfway (as ++ ((ds.mapM id).run answer t).1) []) ((ds.mapM id).run answer t).2 := by
  induction ds generalizing as t with
  | nil =>
    simp only [List.append_nil, List.mapM_nil, Dialogue.run_pure]
    exact .refl _ t
  | cons d ds ih =>
    let a := (d.run answer t).1
    have hlt : as.length < (halfway as (d :: ds)).members.length := by simp [halfway]
    have hd : Leads answer bound s ((halfway as (d :: ds)).advance as.length d) t
        (d.questions answer t) (halfway (as ++ [a]) ds) (d.run answer t).2 :=
      finish_halfway as d ds a ▸ leads_advance d (halfway as (d :: ds)) hlt t
    have hall := ((Leads.opened (step_halfway hb as d ds) t).trans hd).trans
      (ih (as ++ [a]) (d.run answer t).2)
    have hrun : ((d :: ds).mapM id).run answer t =
        (a :: ((ds.mapM id).run answer (d.run answer t).2).1,
          ((ds.mapM id).run answer (d.run answer t).2).2) := by
      rw [List.mapM_cons, id_eq, Dialogue.run_bind, Dialogue.run_bind, Dialogue.run_pure]
    have hquestions : ((d :: ds).mapM id).questions answer t =
        d.questions answer t ++ (ds.mapM id).questions answer (d.run answer t).2 := by
      rw [List.mapM_cons, id_eq, Dialogue.questions_bind, Dialogue.questions_bind]
      exact congrArg _ (List.append_nil _)
    rw [hrun, hquestions]
    simpa using hall

variable (answer) in
/-- To carry out dialogues one after the other is one of the runs of a pool. -/
theorem leads_ofDialogues (hb : 0 < bound) (ds : List (Dialogue Q A α)) (s : σ) :
    ∃ es p, Runs bound (ofDialogues ds) es p ∧ p.isFinished = true ∧ Served answer s es ∧
      p.completed = ((ds.mapM id).run answer s).1 ∧
      questions es = (ds.mapM id).questions answer s ∧
      (after answer s es).state = ((ds.mapM id).run answer s).2 := by
  obtain ⟨es, hruns, hserved, hquestions, hstate⟩ :=
    leads_halfway answer hb ds [] s [] (served_nil s) rfl
  exact ⟨es, _, hruns, isFinished_halfway _, hserved, rfl, hquestions, hstate⟩

end Pool

namespace Sync

variable {σ : Type} {k : Keeper σ}

/-- A sync that writes one group after the other comes to its end as one of those that write them
side by side do: with the same report, the same requests after the listing, and the same state kept. -/
theorem Keeper.sync_syncs {bound : Nat} (hb : 0 < bound) (connector : String) (rs : List Route)
    {s : σ} {listed : List RemoteAction}
    (hlisted : (k.answer (.request .listActions) s).1 = .ok listed) :
    ∃ es p s' report t, k.Syncs connector bound rs s listed es p s' ∧ report? p = some report ∧
      (sync connector rs).run k.answer s = (.ok report, t) ∧ k.kept t = k.kept s' ∧
      requests ((sync connector rs).questions k.answer s) =
        .listActions :: requests (Pool.questions es) := by
  obtain ⟨es, p, hruns, hfinished, hserved, hcompleted, hquestions, hstate⟩ :=
    Pool.leads_ofDialogues k.answer hb
      ((groups (plan listed rs)).map (syncGroup listed connector)) (k.listing s)
  have hfirst : (request .listActions).run k.answer s = (.ok listed, k.listing s) :=
    Prod.ext hlisted rfl
  refine ⟨es, p, _, _, _, ⟨hlisted, hruns, hserved, rfl⟩, if_pos hfinished, ?_,
    k.dealt (.log (finished (.ofOutcomes p.completed.flatten))) _, ?_⟩
  · rw [sync, Dialogue.run_bind, hfirst]
    show ((fun r => (.ok r : Except Error Report)) <$> apply listed connector rs).run k.answer
      (k.listing s) = _
    rw [Dialogue.run_map, run_apply_answer, hcompleted, hstate]
  · rw [sync, Dialogue.questions_bind, hfirst]
    show requests ([.request .listActions] ++
      ((fun r => (.ok r : Except Error Report)) <$> apply listed connector rs).questions k.answer
        (k.listing s)) = _
    rw [Dialogue.questions_map, requests_append, requests_apply, hquestions]
    rfl

end Sync

end Telemetry
