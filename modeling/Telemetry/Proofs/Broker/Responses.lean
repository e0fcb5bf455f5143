import Telemetry.Proofs.Dialogue.Translation
import Telemetry.Proofs.Http.Target

/-!
# What a broker's responses say

Every request to a broker is one message. If it is answered, the status and the body of the response
decide what the request is answered with.

* `Http.rounds`: the messages of an exchange that were answered, with the responses.
* `BrokerClient.answerTo`: what a request is answered with.
* `BrokerClient.plays_perform`: a request is one message, and has this answer.
-/

namespace Telemetry

/-- A question of a client and its answer. -/
abbrev HttpExchange := Exchange HttpStep HttpStep.Answer

/-- A message, and the status and the body of its response. -/
structure Round where
  message : HttpRequest
  status : Nat
  body : String

namespace Http

/-- The round of a message that was answered with all of a body. -/
def round? : HttpExchange → Option Round
  | ⟨.send r _, .answered ⟨status, some body⟩⟩ => some ⟨r, status, body⟩
  | _ => none

/-- The rounds of exchanges, in their order. -/
def rounds (l : List HttpExchange) : List Round := l.filterMap round?

/-- A message was answered with all of a body. -/
def IsAnswered : HttpExchange → Prop
  | ⟨.send _ _, d⟩ => ∃ status body, (d : Delivery) = .answered ⟨status, some body⟩
  | ⟨.log _, _⟩ => True

/-- Every message was answered with all of a body. -/
def Delivered (l : List HttpExchange) : Prop := ∀ x ∈ l, IsAnswered x

variable {l l' : List HttpExchange}

@[simp] theorem rounds_nil : rounds [] = [] := rfl

@[simp] theorem rounds_append : rounds (l ++ l') = rounds l ++ rounds l' := List.filterMap_append

theorem delivered_append : Delivered (l ++ l') ↔ Delivered l ∧ Delivered l' :=
  List.forall_mem_append

/-! ## Exchanges -/

theorem plays_log {event : LogEvent} {x : Unit} (h : (log event).Plays l (.done x)) :
    rounds l = [] := by
  obtain rfl := Dialogue.plays_question h
  rfl

theorem plays_logAll {events : List LogEvent} {x : Unit} (h : (logAll events).Plays l (.done x)) :
    rounds l = [] := by
  induction events generalizing l with
  | nil =>
    obtain ⟨rfl, -⟩ := Dialogue.plays_pure h
    rfl
  | cons event events ih =>
    obtain ⟨l₁, _, l₂, rfl, h₁, h₂⟩ := Dialogue.Plays.bind_inv h
    rw [rounds_append, plays_log h₁, ih h₂, List.append_nil]

/-- A message that can be sent and is answered. -/
theorem plays_exchange {r : HttpRequest} (hsend : ∃ u, r.target = .ok u)
    {x : Except HttpFault HttpResponse} (h : (exchange r).Plays l (.done x)) (hl : Delivered l) :
    ∃ status body, rounds l = [⟨r, status, body⟩] ∧ x = .ok ⟨status, some body⟩ := by
  obtain ⟨u, hu⟩ := hsend
  unfold exchange at h
  rw [hu] at h
  obtain ⟨l₁, d, l₂, rfl, h₁, h₂⟩ := h.bind_inv
  obtain rfl := Dialogue.plays_question h₁
  obtain ⟨rfl, rfl⟩ := Dialogue.plays_pure h₂
  obtain ⟨status, body, rfl⟩ := hl _ (.head _)
  exact ⟨status, body, rfl, rfl⟩

end Http

namespace BrokerClient

open Http

variable {c : BrokerClient} {l : List HttpExchange} {method : HttpMethod} {path : String}

section

variable {body : Option Json} (hsend : ∃ u, (c.message method path body).target = .ok u)

include hsend

theorem plays_send {x : Except Error (Nat × String)}
    (h : (c.send method path body).run.Plays l (.done x)) (hl : Delivered l) : ∃ status text,
      rounds l = [⟨c.message method path body, status, text⟩] ∧ x = .ok (status, text) := by
  obtain ⟨l₁, _, l₂, rfl, h₁, h₂⟩ := Dialogue.plays_run_lift_bind h
  obtain ⟨l₃, answer, l₄, rfl, h₃, h₄⟩ := Dialogue.plays_run_lift_bind h₂
  obtain ⟨status, text, hround, rfl⟩ :=
    plays_exchange hsend h₃ (delivered_append.mp (delivered_append.mp hl).2).1
  obtain ⟨l₅, _, l₆, rfl, h₅, h₆⟩ := Dialogue.plays_run_lift_bind h₄
  obtain ⟨rfl, rfl⟩ := Dialogue.plays_pure h₆
  exact ⟨status, text, by simp [plays_log h₁, hround, plays_log h₅], rfl⟩

/-- A message whose response has to be a success: every other one is the error. -/
theorem plays_sendAccepted {x : Except Error String}
    (h : (c.sendAccepted method path body).run.Plays l (.done x)) (hl : Delivered l) :
    ∃ status text, rounds l = [⟨c.message method path body, status, text⟩] ∧
      x = if isSuccess status then .ok text else .error (.remote status text) := by
  obtain ⟨e, he, -⟩ | ⟨l₁, ⟨status, text⟩, l₂, rfl, h₁, h₂⟩ := Dialogue.plays_run_bind h
  · obtain ⟨_, _, -, he⟩ := plays_send hsend he hl
    cases he
  obtain ⟨_, _, hround, hanswer⟩ := plays_send hsend h₁ (delivered_append.mp hl).1
  obtain ⟨rfl, rfl⟩ := Prod.mk.inj (Except.ok.inj hanswer)
  refine ⟨status, text, ?_⟩
  simp only at h₂
  split at h₂
  · next hstatus =>
    obtain ⟨rfl, rfl⟩ := Dialogue.plays_pure h₂
    exact ⟨by simp [hround], (if_pos hstatus).symm⟩
  · next hstatus =>
    obtain ⟨l₃, _, l₄, rfl, h₃, h₄⟩ := Dialogue.plays_run_lift_bind h₂
    obtain ⟨rfl, rfl⟩ := Dialogue.plays_pure h₄
    exact ⟨by simp [hround, plays_log h₃], (if_neg hstatus).symm⟩

/-- What follows on a message whose response has to be a success. -/
theorem plays_accepted_bind {α : Type} {f : String → HttpOperation α} {x : Except Error α}
    (h : (c.sendAccepted method path body >>= f).run.Plays l (.done x)) (hl : Delivered l) :
    ∃ status text l', rounds l = ⟨c.message method path body, status, text⟩ :: rounds l' ∧
      if isSuccess status then (f text).run.Plays l' (.done x)
      else l' = [] ∧ x = .error (.remote status text) := by
  obtain ⟨e, he, rfl⟩ | ⟨l₁, text, l₂, rfl, h₁, h₂⟩ := Dialogue.plays_run_bind h
  · obtain ⟨status, text, hround, he⟩ := plays_sendAccepted hsend he hl
    refine ⟨status, text, [], hround, ?_⟩
    split at he
    · cases he
    · next hstatus => rw [if_neg hstatus, Except.error.inj he]; exact ⟨rfl, rfl⟩
  · obtain ⟨status, text', hround, he⟩ :=
      plays_sendAccepted hsend h₁ (delivered_append.mp hl).1
    refine ⟨status, text', l₂, by rw [rounds_append, hround, List.singleton_append], ?_⟩
    split at he
    · next hstatus => rwa [if_pos hstatus, ← Except.ok.inj he]
    · cases he

end

theorem plays_write {v : Json} (hsend : ∃ u, (c.message method path (some v)).target = .ok u)
    {x : Except Error Unit} (h : (c.write method path v).run.Plays l (.done x))
    (hl : Delivered l) : ∃ status text,
      rounds l = [⟨c.message method path (some v), status, text⟩] ∧
      x = if isSuccess status then .ok () else .error (.remote status text) := by
  obtain ⟨status, text, l', hround, h⟩ := plays_accepted_bind hsend h hl
  refine ⟨status, text, ?_⟩
  split at h
  · next hstatus =>
    obtain ⟨rfl, rfl⟩ := Dialogue.plays_pure h
    exact ⟨hround, (if_pos hstatus).symm⟩
  · next hstatus =>
    obtain ⟨rfl, rfl⟩ := h
    exact ⟨hround, (if_neg hstatus).symm⟩

theorem plays_listActions (hsend : ∃ u, (c.message .get actionsPath none).target = .ok u)
    {x : Except Error (List RemoteAction)} (h : c.listActions.run.Plays l (.done x))
    (hl : Delivered l) : ∃ status text,
      rounds l = [⟨c.message .get actionsPath none, status, text⟩] ∧
      x = if isSuccess status then readActions text else .error (.remote status text) := by
  obtain ⟨status, text, l', hround, h⟩ := plays_accepted_bind hsend h hl
  refine ⟨status, text, ?_⟩
  split at h
  · next hstatus =>
    rw [if_pos hstatus]
    cases hactions : readActions text with
    | error e =>
      rw [hactions] at h
      obtain ⟨rfl, rfl⟩ := Dialogue.plays_pure h
      exact ⟨hround, rfl⟩
    | ok actions =>
      rw [hactions] at h
      obtain ⟨l₁, _, l₂, rfl, h₁, h₂⟩ := Dialogue.plays_run_lift_bind h
      obtain ⟨rfl, rfl⟩ := Dialogue.plays_pure h₂
      exact ⟨by simp [hround, plays_log h₁], rfl⟩
  · next hstatus =>
    obtain ⟨rfl, rfl⟩ := h
    exact ⟨hround, (if_neg hstatus).symm⟩

theorem plays_createRule {p : RulePayload}
    (hsend : ∃ u, (c.message .post rulesPath (some p.toJson)).target = .ok u)
    {x : Except Error RuleCreation} (h : (c.createRule p).run.Plays l (.done x))
    (hl : Delivered l) : ∃ status text,
      rounds l = [⟨c.message .post rulesPath (some p.toJson), status, text⟩] ∧
      x = .ok (if status = createdStatus then .created else .rejected status text) := by
  obtain ⟨e, he, -⟩ | ⟨l₁, ⟨status, text⟩, l₂, rfl, h₁, h₂⟩ := Dialogue.plays_run_bind h
  · obtain ⟨_, _, -, he⟩ := plays_send hsend he hl
    cases he
  obtain ⟨_, _, hround, hanswer⟩ := plays_send hsend h₁ (delivered_append.mp hl).1
  obtain ⟨rfl, rfl⟩ := Prod.mk.inj (Except.ok.inj hanswer)
  obtain ⟨rfl, rfl⟩ := Dialogue.plays_pure h₂
  exact ⟨status, text, by simpa using hround, rfl⟩

/-! ## Requests -/

/-- What a request is answered with, if its response has this status and this body. -/
def answerTo : (r : BrokerRequest) → (status : Nat) → (body : String) → r.Answer
  | .listActions, status, body =>
    (if isSuccess status then readActions body else .error (.remote status body) :
      Except Error (List RemoteAction))
  | .createRule _, status, body =>
    (.ok (if status = createdStatus then .created else .rejected status body) :
      Except Error RuleCreation)
  | .createAction _, status, body | .updateAction _ _, status, body
  | .updateRule _ _, status, body =>
    (if isSuccess status then .ok () else .error (.remote status body) : Except Error Unit)

/-- A request is one message, and the response to it decides the answer. -/
theorem plays_perform (hc : c.Addressed) {r : BrokerRequest} {x : r.Answer}
    (h : (c.perform r).Plays l (.done x)) (hl : Delivered l) : ∃ status body,
      rounds l = [⟨c.messageOf r, status, body⟩] ∧ x = answerTo r status body := by
  obtain ⟨l₁, _, l₂, rfl, h₁, h₂⟩ := h.bind_inv
  have hl₂ := (delivered_append.mp hl).2
  rw [rounds_append, plays_logAll h₁, List.nil_append]
  have hsend := exists_target hc r
  cases r with
  | listActions => exact plays_listActions hsend h₂ hl₂
  | createAction p => exact plays_write hsend h₂ hl₂
  | updateAction name p => exact plays_write hsend h₂ hl₂
  | createRule p => exact plays_createRule hsend h₂ hl₂
  | updateRule id p => exact plays_write hsend h₂ hl₂

end BrokerClient

end Telemetry
