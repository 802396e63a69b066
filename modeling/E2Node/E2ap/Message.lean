import E2Node.E2ap.Cause
import E2Node.Ident.Cell
import E2Node.Ident.Request

namespace E2Node

structure RanFunctionItem where
  id : RanFunctionId
  revision : UInt16
  oid : String
  definition : List UInt8
  deriving DecidableEq

structure SetupRequest where
  node : GnbId
  plmn : Octets
  functions : List RanFunctionItem
  deriving DecidableEq

structure SetupResponse where
  accepted : List RanFunctionId
  rejected : List (RanFunctionId × Cause)
  deriving DecidableEq

structure SetupFailure where
  cause : Cause
  deriving DecidableEq

structure RequestedAction where
  id : ActionId
  type : ActionType
  definition : Option (List UInt8)
  deriving DecidableEq

structure SubscriptionRequest where
  request : RequestId
  function : RanFunctionId
  eventTrigger : List UInt8
  actions : List RequestedAction
  deriving DecidableEq

structure SubscriptionResponse where
  request : RequestId
  function : RanFunctionId
  admitted : List ActionId
  notAdmitted : List (ActionId × Cause)
  deriving DecidableEq

structure SubscriptionFailure where
  request : RequestId
  function : RanFunctionId
  cause : Cause
  deriving DecidableEq

structure SubscriptionDeleteRequest where
  request : RequestId
  function : RanFunctionId
  deriving DecidableEq

structure SubscriptionDeleteResponse where
  request : RequestId
  function : RanFunctionId
  deriving DecidableEq

structure SubscriptionDeleteFailure where
  request : RequestId
  function : RanFunctionId
  cause : Cause
  deriving DecidableEq

structure ControlRequest where
  request : RequestId
  function : RanFunctionId
  callProcess : Option (List UInt8)
  header : List UInt8
  message : List UInt8
  ackRequested : Bool
  deriving DecidableEq

structure ControlAcknowledge where
  request : RequestId
  function : RanFunctionId
  callProcess : Option (List UInt8)
  outcome : Option (List UInt8)
  deriving DecidableEq

structure ControlFailure where
  request : RequestId
  function : RanFunctionId
  callProcess : Option (List UInt8)
  cause : Cause
  deriving DecidableEq

structure ConnectionUpdate where
  add : List String
  remove : List String
  deriving DecidableEq

structure ConnectionUpdateAcknowledge where
  setup : List String
  failed : List String
  deriving DecidableEq

structure ConnectionUpdateFailure where
  cause : Cause
  deriving DecidableEq

structure Indication where
  request : RequestId
  function : RanFunctionId
  action : ActionId
  sequenceNumber : Option UInt32
  type : IndicationType
  header : List UInt8
  message : List UInt8
  callProcess : Option (List UInt8)
  deriving DecidableEq

/-- Answers a request for which there is no response. -/
structure ErrorIndication where
  request : Option RequestId
  function : Option RanFunctionId
  cause : Cause
  deriving DecidableEq

inductive Pdu
  | setupRequest (m : SetupRequest)
  | setupResponse (m : SetupResponse)
  | setupFailure (m : SetupFailure)
  | subscriptionRequest (m : SubscriptionRequest)
  | subscriptionResponse (m : SubscriptionResponse)
  | subscriptionFailure (m : SubscriptionFailure)
  | subscriptionDeleteRequest (m : SubscriptionDeleteRequest)
  | subscriptionDeleteResponse (m : SubscriptionDeleteResponse)
  | subscriptionDeleteFailure (m : SubscriptionDeleteFailure)
  | controlRequest (m : ControlRequest)
  | controlAcknowledge (m : ControlAcknowledge)
  | controlFailure (m : ControlFailure)
  | connectionUpdate (m : ConnectionUpdate)
  | connectionUpdateAcknowledge (m : ConnectionUpdateAcknowledge)
  | connectionUpdateFailure (m : ConnectionUpdateFailure)
  | indication (m : Indication)
  | errorIndication (m : ErrorIndication)
  deriving DecidableEq

end E2Node
