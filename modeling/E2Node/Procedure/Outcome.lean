import E2Node.E2ap.Failure
import E2Node.E2ap.Message

namespace E2Node

inductive Outcome (σ φ : Type)
  | success (answer : σ)
  | failure (answer : φ)
  deriving DecidableEq

abbrev SetupOutcome := Outcome SetupResponse SetupFailure

abbrev SubscriptionOutcome := Outcome SubscriptionResponse SubscriptionFailure

abbrev DeleteOutcome := Outcome SubscriptionDeleteResponse SubscriptionDeleteFailure

abbrev ControlOutcome := Outcome ControlAcknowledge ControlFailure

abbrev UpdateOutcome := Outcome ConnectionUpdateAcknowledge ConnectionUpdateFailure

/-- Serves the requests of a controller, over a state of its own. -/
structure Handler (σ : Type) where
  subscription : SubscriptionRequest → σ → Except RequestError SubscriptionOutcome × σ
  delete : SubscriptionDeleteRequest → σ → Except RequestError DeleteOutcome × σ
  control : ControlRequest → σ → Except RequestError ControlOutcome × σ
  update : ConnectionUpdate → σ → Except RequestError UpdateOutcome × σ

end E2Node
