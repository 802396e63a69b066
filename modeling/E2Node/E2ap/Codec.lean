import E2Node.E2ap.Kind
import E2Node.E2ap.Parts
import E2Node.Wire.Codec

namespace E2Node.Wire.Codec

def octetTriple : Codec Octets := (u8.pair (u8.pair u8)).of Octets.parts

def functionId : Codec RanFunctionId := u16.of RanFunctionId.parts

def actionId : Codec ActionId := u8.of ActionId.parts

def requestId : Codec RequestId := (u32.pair u32).of RequestId.parts

def actionType : Codec ActionType := oneOf ActionType.all

def indicationType : Codec IndicationType := oneOf IndicationType.all

def cause : Codec Cause :=
  (alternatives CauseGroup.all fun g => oneOf g.members).of Cause.parts

def functionItem : Codec RanFunctionItem :=
  (functionId.pair (u16.pair (text.pair octets))).of RanFunctionItem.parts

def setupRequest : Codec SetupRequest :=
  ((u64.of GnbId.parts).pair (octetTriple.pair (list functionItem))).of SetupRequest.parts

def setupResponse : Codec SetupResponse :=
  ((list functionId).pair (list (functionId.pair cause))).of SetupResponse.parts

def setupFailure : Codec SetupFailure := cause.of SetupFailure.parts

def requestedAction : Codec RequestedAction :=
  (actionId.pair (actionType.pair (option octets))).of RequestedAction.parts

def subscriptionRequest : Codec SubscriptionRequest :=
  (requestId.pair (functionId.pair (octets.pair (list requestedAction)))).of
    SubscriptionRequest.parts

def subscriptionResponse : Codec SubscriptionResponse :=
  (requestId.pair (functionId.pair ((list actionId).pair (list (actionId.pair cause))))).of
    SubscriptionResponse.parts

def subscriptionFailure : Codec SubscriptionFailure :=
  (requestId.pair (functionId.pair cause)).of SubscriptionFailure.parts

def subscriptionDeleteRequest : Codec SubscriptionDeleteRequest :=
  (requestId.pair functionId).of SubscriptionDeleteRequest.parts

def subscriptionDeleteResponse : Codec SubscriptionDeleteResponse :=
  (requestId.pair functionId).of SubscriptionDeleteResponse.parts

def subscriptionDeleteFailure : Codec SubscriptionDeleteFailure :=
  (requestId.pair (functionId.pair cause)).of SubscriptionDeleteFailure.parts

def controlRequest : Codec ControlRequest :=
  (requestId.pair (functionId.pair ((option octets).pair (octets.pair (octets.pair flag))))).of
    ControlRequest.parts

def controlAcknowledge : Codec ControlAcknowledge :=
  (requestId.pair (functionId.pair ((option octets).pair (option octets)))).of
    ControlAcknowledge.parts

def controlFailure : Codec ControlFailure :=
  (requestId.pair (functionId.pair ((option octets).pair cause))).of ControlFailure.parts

def connectionUpdate : Codec ConnectionUpdate :=
  ((list text).pair (list text)).of ConnectionUpdate.parts

def connectionUpdateAcknowledge : Codec ConnectionUpdateAcknowledge :=
  ((list text).pair (list text)).of ConnectionUpdateAcknowledge.parts

def connectionUpdateFailure : Codec ConnectionUpdateFailure :=
  cause.of ConnectionUpdateFailure.parts

def indication : Codec Indication :=
  (requestId.pair (functionId.pair (actionId.pair ((option u32).pair
    (indicationType.pair (octets.pair (octets.pair (option octets)))))))).of Indication.parts

def errorIndication : Codec ErrorIndication :=
  ((option requestId).pair ((option functionId).pair cause)).of ErrorIndication.parts

def body : (k : PduKind) → Codec k.Body
  | .setupRequest => setupRequest
  | .setupResponse => setupResponse
  | .setupFailure => setupFailure
  | .subscriptionRequest => subscriptionRequest
  | .subscriptionResponse => subscriptionResponse
  | .subscriptionFailure => subscriptionFailure
  | .subscriptionDeleteRequest => subscriptionDeleteRequest
  | .subscriptionDeleteResponse => subscriptionDeleteResponse
  | .subscriptionDeleteFailure => subscriptionDeleteFailure
  | .controlRequest => controlRequest
  | .controlAcknowledge => controlAcknowledge
  | .controlFailure => controlFailure
  | .connectionUpdate => connectionUpdate
  | .connectionUpdateAcknowledge => connectionUpdateAcknowledge
  | .connectionUpdateFailure => connectionUpdateFailure
  | .indication => indication
  | .errorIndication => errorIndication

def pdu : Codec Pdu := (alternatives PduKind.all body).of Pdu.parts

end E2Node.Wire.Codec
