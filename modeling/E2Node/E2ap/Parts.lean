import E2Node.E2ap.Message
import E2Node.Wire.Parts

namespace E2Node

abbrev Bytes := List UInt8

def Octets.parts : Parts Octets (UInt8 × UInt8 × UInt8) where
  split o := (o.first, o.second, o.third)
  join := fun (a, b, c) => ⟨a, b, c⟩

def GnbId.parts : Parts GnbId UInt64 where
  split := GnbId.val
  join := .mk

def RanFunctionId.parts : Parts RanFunctionId UInt16 where
  split := RanFunctionId.val
  join := .mk

def ActionId.parts : Parts ActionId UInt8 where
  split := ActionId.val
  join := .mk

def RequestId.parts : Parts RequestId (UInt32 × UInt32) where
  split r := (r.requestor, r.instanceId)
  join := fun (a, b) => ⟨a, b⟩

def RanFunctionItem.parts : Parts RanFunctionItem (RanFunctionId × UInt16 × String × Bytes) where
  split i := (i.id, i.revision, i.oid, i.definition)
  join := fun (a, b, c, d) => ⟨a, b, c, d⟩

def SetupRequest.parts : Parts SetupRequest (GnbId × Octets × List RanFunctionItem) where
  split m := (m.node, m.plmn, m.functions)
  join := fun (a, b, c) => ⟨a, b, c⟩

def SetupResponse.parts :
    Parts SetupResponse (List RanFunctionId × List (RanFunctionId × Cause)) where
  split m := (m.accepted, m.rejected)
  join := fun (a, b) => ⟨a, b⟩

def SetupFailure.parts : Parts SetupFailure Cause where
  split := SetupFailure.cause
  join := .mk

def RequestedAction.parts : Parts RequestedAction (ActionId × ActionType × Option Bytes) where
  split a := (a.id, a.type, a.definition)
  join := fun (a, b, c) => ⟨a, b, c⟩

def SubscriptionRequest.parts :
    Parts SubscriptionRequest (RequestId × RanFunctionId × Bytes × List RequestedAction) where
  split m := (m.request, m.function, m.eventTrigger, m.actions)
  join := fun (a, b, c, d) => ⟨a, b, c, d⟩

def SubscriptionResponse.parts : Parts SubscriptionResponse
    (RequestId × RanFunctionId × List ActionId × List (ActionId × Cause)) where
  split m := (m.request, m.function, m.admitted, m.notAdmitted)
  join := fun (a, b, c, d) => ⟨a, b, c, d⟩

def SubscriptionFailure.parts : Parts SubscriptionFailure (RequestId × RanFunctionId × Cause) where
  split m := (m.request, m.function, m.cause)
  join := fun (a, b, c) => ⟨a, b, c⟩

def SubscriptionDeleteRequest.parts :
    Parts SubscriptionDeleteRequest (RequestId × RanFunctionId) where
  split m := (m.request, m.function)
  join := fun (a, b) => ⟨a, b⟩

def SubscriptionDeleteResponse.parts :
    Parts SubscriptionDeleteResponse (RequestId × RanFunctionId) where
  split m := (m.request, m.function)
  join := fun (a, b) => ⟨a, b⟩

def SubscriptionDeleteFailure.parts :
    Parts SubscriptionDeleteFailure (RequestId × RanFunctionId × Cause) where
  split m := (m.request, m.function, m.cause)
  join := fun (a, b, c) => ⟨a, b, c⟩

def ControlRequest.parts :
    Parts ControlRequest (RequestId × RanFunctionId × Option Bytes × Bytes × Bytes × Bool) where
  split m := (m.request, m.function, m.callProcess, m.header, m.message, m.ackRequested)
  join := fun (a, b, c, d, e, f) => ⟨a, b, c, d, e, f⟩

def ControlAcknowledge.parts :
    Parts ControlAcknowledge (RequestId × RanFunctionId × Option Bytes × Option Bytes) where
  split m := (m.request, m.function, m.callProcess, m.outcome)
  join := fun (a, b, c, d) => ⟨a, b, c, d⟩

def ControlFailure.parts :
    Parts ControlFailure (RequestId × RanFunctionId × Option Bytes × Cause) where
  split m := (m.request, m.function, m.callProcess, m.cause)
  join := fun (a, b, c, d) => ⟨a, b, c, d⟩

def ConnectionUpdate.parts : Parts ConnectionUpdate (List String × List String) where
  split m := (m.add, m.remove)
  join := fun (a, b) => ⟨a, b⟩

def ConnectionUpdateAcknowledge.parts :
    Parts ConnectionUpdateAcknowledge (List String × List String) where
  split m := (m.setup, m.failed)
  join := fun (a, b) => ⟨a, b⟩

def ConnectionUpdateFailure.parts : Parts ConnectionUpdateFailure Cause where
  split := ConnectionUpdateFailure.cause
  join := .mk

def Indication.parts : Parts Indication (RequestId × RanFunctionId × ActionId × Option UInt32 ×
    IndicationType × Bytes × Bytes × Option Bytes) where
  split m :=
    (m.request, m.function, m.action, m.sequenceNumber, m.type, m.header, m.message, m.callProcess)
  join := fun (a, b, c, d, e, f, g, h) => ⟨a, b, c, d, e, f, g, h⟩

def ErrorIndication.parts :
    Parts ErrorIndication (Option RequestId × Option RanFunctionId × Cause) where
  split m := (m.request, m.function, m.cause)
  join := fun (a, b, c) => ⟨a, b, c⟩

end E2Node
