import Telemetry.Broker.Request

/-!
# What a broker keeps

* `BrokerState`: the actions and the ids of the rules.
* `BrokerState.perform`: the answer to a request that the broker carries out, and what it keeps
  afterwards. A created action is listed last; a rule whose id is known is refused.
-/

namespace Telemetry

/-- What a broker keeps. -/
structure BrokerState where
  actions : List RemoteAction
  rules : List String

namespace BrokerState

/-- The status of a rule that is refused. -/
def refusal : Nat := 400

/-- Keep a new action, which is created at a time. -/
def addAction (s : BrokerState) (name : String) (time : Json) : BrokerState :=
  { s with actions := s.actions ++ [⟨name, some actionType, some time, none⟩] }

/-- Keep a new rule, or refuse it. -/
def addRule (s : BrokerState) (id : String) : RuleCreation × BrokerState :=
  if id ∈ s.rules then (.rejected refusal "", s)
  else (.created, { s with rules := s.rules ++ [id] })

/-- The answer to a request that is carried out at a time, and what is kept afterwards. -/
def perform (s : BrokerState) (time : Json) : (r : BrokerRequest) → r.Answer × BrokerState
  | .listActions => ((.ok s.actions : Except Error (List RemoteAction)), s)
  | .createAction p => ((.ok () : Except Error Unit), s.addAction (p.name.getD "") time)
  | .updateAction .. => ((.ok () : Except Error Unit), s)
  | .createRule p =>
    let (creation, s) := s.addRule p.id
    ((.ok creation : Except Error RuleCreation), s)
  | .updateRule .. => ((.ok () : Except Error Unit), s)

end BrokerState

end Telemetry
