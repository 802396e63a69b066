import E2Node.E2ap.Message
import E2Node.Wire.Parts

namespace E2Node

inductive PduKind
  | setupRequest
  | setupResponse
  | setupFailure
  | subscriptionRequest
  | subscriptionResponse
  | subscriptionFailure
  | subscriptionDeleteRequest
  | subscriptionDeleteResponse
  | subscriptionDeleteFailure
  | controlRequest
  | controlAcknowledge
  | controlFailure
  | connectionUpdate
  | connectionUpdateAcknowledge
  | connectionUpdateFailure
  | indication
  | errorIndication
  deriving DecidableEq

namespace PduKind

def all : List PduKind :=
  [.setupRequest, .setupResponse, .setupFailure, .subscriptionRequest, .subscriptionResponse,
    .subscriptionFailure, .subscriptionDeleteRequest, .subscriptionDeleteResponse,
    .subscriptionDeleteFailure, .controlRequest, .controlAcknowledge, .controlFailure,
    .connectionUpdate, .connectionUpdateAcknowledge, .connectionUpdateFailure, .indication,
    .errorIndication]

abbrev Body : PduKind → Type
  | .setupRequest => SetupRequest
  | .setupResponse => SetupResponse
  | .setupFailure => SetupFailure
  | .subscriptionRequest => SubscriptionRequest
  | .subscriptionResponse => SubscriptionResponse
  | .subscriptionFailure => SubscriptionFailure
  | .subscriptionDeleteRequest => SubscriptionDeleteRequest
  | .subscriptionDeleteResponse => SubscriptionDeleteResponse
  | .subscriptionDeleteFailure => SubscriptionDeleteFailure
  | .controlRequest => ControlRequest
  | .controlAcknowledge => ControlAcknowledge
  | .controlFailure => ControlFailure
  | .connectionUpdate => ConnectionUpdate
  | .connectionUpdateAcknowledge => ConnectionUpdateAcknowledge
  | .connectionUpdateFailure => ConnectionUpdateFailure
  | .indication => Indication
  | .errorIndication => ErrorIndication

def pdu : (k : PduKind) → k.Body → Pdu
  | .setupRequest, m => .setupRequest m
  | .setupResponse, m => .setupResponse m
  | .setupFailure, m => .setupFailure m
  | .subscriptionRequest, m => .subscriptionRequest m
  | .subscriptionResponse, m => .subscriptionResponse m
  | .subscriptionFailure, m => .subscriptionFailure m
  | .subscriptionDeleteRequest, m => .subscriptionDeleteRequest m
  | .subscriptionDeleteResponse, m => .subscriptionDeleteResponse m
  | .subscriptionDeleteFailure, m => .subscriptionDeleteFailure m
  | .controlRequest, m => .controlRequest m
  | .controlAcknowledge, m => .controlAcknowledge m
  | .controlFailure, m => .controlFailure m
  | .connectionUpdate, m => .connectionUpdate m
  | .connectionUpdateAcknowledge, m => .connectionUpdateAcknowledge m
  | .connectionUpdateFailure, m => .connectionUpdateFailure m
  | .indication, m => .indication m
  | .errorIndication, m => .errorIndication m

def name : PduKind → String
  | .setupRequest => "E2SetupRequest"
  | .setupResponse => "E2SetupResponse"
  | .setupFailure => "E2SetupFailure"
  | .subscriptionRequest => "RICsubscriptionRequest"
  | .subscriptionResponse => "RICsubscriptionResponse"
  | .subscriptionFailure => "RICsubscriptionFailure"
  | .subscriptionDeleteRequest => "RICsubscriptionDeleteRequest"
  | .subscriptionDeleteResponse => "RICsubscriptionDeleteResponse"
  | .subscriptionDeleteFailure => "RICsubscriptionDeleteFailure"
  | .controlRequest => "RICcontrolRequest"
  | .controlAcknowledge => "RICcontrolAcknowledge"
  | .controlFailure => "RICcontrolFailure"
  | .connectionUpdate => "E2connectionUpdate"
  | .connectionUpdateAcknowledge => "E2connectionUpdateAcknowledge"
  | .connectionUpdateFailure => "E2connectionUpdateFailure"
  | .indication => "RICindication"
  | .errorIndication => "ErrorIndication"

end PduKind

namespace Pdu

def kind : Pdu → PduKind
  | .setupRequest _ => .setupRequest
  | .setupResponse _ => .setupResponse
  | .setupFailure _ => .setupFailure
  | .subscriptionRequest _ => .subscriptionRequest
  | .subscriptionResponse _ => .subscriptionResponse
  | .subscriptionFailure _ => .subscriptionFailure
  | .subscriptionDeleteRequest _ => .subscriptionDeleteRequest
  | .subscriptionDeleteResponse _ => .subscriptionDeleteResponse
  | .subscriptionDeleteFailure _ => .subscriptionDeleteFailure
  | .controlRequest _ => .controlRequest
  | .controlAcknowledge _ => .controlAcknowledge
  | .controlFailure _ => .controlFailure
  | .connectionUpdate _ => .connectionUpdate
  | .connectionUpdateAcknowledge _ => .connectionUpdateAcknowledge
  | .connectionUpdateFailure _ => .connectionUpdateFailure
  | .indication _ => .indication
  | .errorIndication _ => .errorIndication

def body : (p : Pdu) → p.kind.Body
  | .setupRequest m => m
  | .setupResponse m => m
  | .setupFailure m => m
  | .subscriptionRequest m => m
  | .subscriptionResponse m => m
  | .subscriptionFailure m => m
  | .subscriptionDeleteRequest m => m
  | .subscriptionDeleteResponse m => m
  | .subscriptionDeleteFailure m => m
  | .controlRequest m => m
  | .controlAcknowledge m => m
  | .controlFailure m => m
  | .connectionUpdate m => m
  | .connectionUpdateAcknowledge m => m
  | .connectionUpdateFailure m => m
  | .indication m => m
  | .errorIndication m => m

def name (p : Pdu) : String := p.kind.name

def parts : Parts Pdu (Sigma PduKind.Body) where
  split p := ⟨p.kind, p.body⟩
  join s := s.1.pdu s.2
  join_split p := by cases p <;> rfl
  split_join s := by obtain ⟨k, b⟩ := s; cases k <;> rfl

end Pdu

inductive CauseGroup
  | request
  | service
  | protocol
  | misc
  deriving DecidableEq

namespace CauseGroup

def all : List CauseGroup := [.request, .service, .protocol, .misc]

abbrev Member : CauseGroup → Type
  | .request => RequestCause
  | .service => ServiceCause
  | .protocol => ProtocolCause
  | .misc => MiscCause

def members : (g : CauseGroup) → List g.Member
  | .request => RequestCause.all
  | .service => ServiceCause.all
  | .protocol => ProtocolCause.all
  | .misc => MiscCause.all

instance (g : CauseGroup) : DecidableEq g.Member := by cases g <;> exact inferInstance

def cause : (g : CauseGroup) → g.Member → Cause
  | .request, c => .request c
  | .service, c => .service c
  | .protocol, c => .protocol c
  | .misc, c => .misc c

end CauseGroup

namespace Cause

def group : Cause → CauseGroup
  | .request _ => .request
  | .service _ => .service
  | .protocol _ => .protocol
  | .misc _ => .misc

def member : (c : Cause) → c.group.Member
  | .request c => c
  | .service c => c
  | .protocol c => c
  | .misc c => c

def parts : Parts Cause (Sigma CauseGroup.Member) where
  split c := ⟨c.group, c.member⟩
  join s := s.1.cause s.2
  join_split c := by cases c <;> rfl
  split_join s := by obtain ⟨g, c⟩ := s; cases g <;> rfl

end Cause

end E2Node
