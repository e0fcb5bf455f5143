import Telemetry.Broker.Payload

/-!
# What a broker is asked

* `BrokerRequest`: to list its actions, to create or replace an action, to create or replace a rule.
* `BrokerRequest.Answer`: what each is answered with.
-/

namespace Telemetry

/-- What came of creating a rule. A refusal is no error: the rule is there already. -/
inductive RuleCreation where
  | created
  | rejected (status : Nat) (body : String)
  deriving DecidableEq

/-- A request to the broker. -/
inductive BrokerRequest where
  | listActions
  | createAction (payload : ActionPayload)
  | updateAction (name : String) (payload : ActionPayload)
  | createRule (payload : RulePayload)
  | updateRule (id : String) (payload : RulePayload)

namespace BrokerRequest

/-- What a request is answered with. -/
def Answer : BrokerRequest → Type
  | listActions => Except Error (List RemoteAction)
  | createAction _ => Except Error Unit
  | updateAction .. => Except Error Unit
  | createRule _ => Except Error RuleCreation
  | updateRule .. => Except Error Unit

/-- The answer to a request that failed. -/
def failed (e : Error) : (r : BrokerRequest) → r.Answer
  | listActions => (.error e : Except Error (List RemoteAction))
  | createAction _ => (.error e : Except Error Unit)
  | updateAction .. => (.error e : Except Error Unit)
  | createRule _ => (.error e : Except Error RuleCreation)
  | updateRule .. => (.error e : Except Error Unit)

/-- The name of the action or the id of the rule that a request is about. -/
def subject : BrokerRequest → String
  | listActions => ""
  | createAction p => p.name.getD ""
  | updateAction name _ => name
  | createRule p => p.id
  | updateRule id _ => id

end BrokerRequest

end Telemetry
