import E2Node.E2ap.Kind
import E2Node.Procedure.Outcome

namespace E2Node

def Pdu.ofSubscription (request : SubscriptionRequest) :
    Except RequestError SubscriptionOutcome → Pdu
  | .ok (.success m) => .subscriptionResponse m
  | .ok (.failure m) => .subscriptionFailure m
  | .error e => .errorIndication ⟨some request.request, some request.function, e.cause⟩

def Pdu.ofDelete (request : SubscriptionDeleteRequest) : Except RequestError DeleteOutcome → Pdu
  | .ok (.success m) => .subscriptionDeleteResponse m
  | .ok (.failure m) => .subscriptionDeleteFailure m
  | .error e => .errorIndication ⟨some request.request, some request.function, e.cause⟩

def Pdu.ofControl (request : ControlRequest) : Except RequestError ControlOutcome → Pdu
  | .ok (.success m) => .controlAcknowledge m
  | .ok (.failure m) => .controlFailure m
  | .error e => .errorIndication ⟨some request.request, some request.function, e.cause⟩

def Pdu.ofUpdate : Except RequestError UpdateOutcome → Pdu
  | .ok (.success m) => .connectionUpdateAcknowledge m
  | .ok (.failure m) => .connectionUpdateFailure m
  | .error e => .errorIndication ⟨none, none, e.cause⟩

def Pdu.IsRequest : Pdu → Bool
  | .subscriptionRequest _ | .subscriptionDeleteRequest _ | .controlRequest _
  | .connectionUpdate _ => true
  | _ => false

def Handler.serve {σ : Type} (h : Handler σ) (p : Pdu) (s : σ) : Except SessionError Pdu × σ :=
  match p with
  | .subscriptionRequest m =>
      let r := h.subscription m s
      (.ok (Pdu.ofSubscription m r.1), r.2)
  | .subscriptionDeleteRequest m =>
      let r := h.delete m s
      (.ok (Pdu.ofDelete m r.1), r.2)
  | .controlRequest m =>
      let r := h.control m s
      (.ok (Pdu.ofControl m r.1), r.2)
  | .connectionUpdate m =>
      let r := h.update m s
      (.ok (Pdu.ofUpdate r.1), r.2)
  | p => (.error (.unexpectedPdu p.name), s)

end E2Node
