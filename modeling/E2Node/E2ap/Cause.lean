namespace E2Node

inductive RequestCause
  | ranFunctionIdInvalid
  | actionNotSupported
  | excessiveActions
  | duplicateAction
  | duplicateEvent
  | functionResourceLimit
  | requestIdUnknown
  | controlMessageInvalid
  | unspecified
  deriving DecidableEq

inductive ServiceCause
  | functionNotRequired
  | excessiveFunctions
  | ricResourceLimit
  deriving DecidableEq

inductive ProtocolCause
  | transferSyntaxError
  | abstractSyntaxErrorReject
  | messageNotCompatibleWithReceiverState
  | unspecified
  deriving DecidableEq

inductive MiscCause
  | controlProcessingOverload
  | hardwareFailure
  | omIntervention
  | unspecified
  deriving DecidableEq

inductive Cause
  | request (c : RequestCause)
  | service (c : ServiceCause)
  | protocol (c : ProtocolCause)
  | misc (c : MiscCause)
  deriving DecidableEq

def RequestCause.all : List RequestCause :=
  [.ranFunctionIdInvalid, .actionNotSupported, .excessiveActions, .duplicateAction,
    .duplicateEvent, .functionResourceLimit, .requestIdUnknown, .controlMessageInvalid,
    .unspecified]

def ServiceCause.all : List ServiceCause :=
  [.functionNotRequired, .excessiveFunctions, .ricResourceLimit]

def ProtocolCause.all : List ProtocolCause :=
  [.transferSyntaxError, .abstractSyntaxErrorReject, .messageNotCompatibleWithReceiverState,
    .unspecified]

def MiscCause.all : List MiscCause :=
  [.controlProcessingOverload, .hardwareFailure, .omIntervention, .unspecified]

def RequestCause.name : RequestCause → String
  | .ranFunctionIdInvalid => "RanFunctionIdInvalid"
  | .actionNotSupported => "ActionNotSupported"
  | .excessiveActions => "ExcessiveActions"
  | .duplicateAction => "DuplicateAction"
  | .duplicateEvent => "DuplicateEvent"
  | .functionResourceLimit => "FunctionResourceLimit"
  | .requestIdUnknown => "RequestIdUnknown"
  | .controlMessageInvalid => "ControlMessageInvalid"
  | .unspecified => "Unspecified"

def ServiceCause.name : ServiceCause → String
  | .functionNotRequired => "FunctionNotRequired"
  | .excessiveFunctions => "ExcessiveFunctions"
  | .ricResourceLimit => "RicResourceLimit"

def ProtocolCause.name : ProtocolCause → String
  | .transferSyntaxError => "TransferSyntaxError"
  | .abstractSyntaxErrorReject => "AbstractSyntaxErrorReject"
  | .messageNotCompatibleWithReceiverState => "MessageNotCompatibleWithReceiverState"
  | .unspecified => "Unspecified"

def MiscCause.name : MiscCause → String
  | .controlProcessingOverload => "ControlProcessingOverload"
  | .hardwareFailure => "HardwareFailure"
  | .omIntervention => "OmIntervention"
  | .unspecified => "Unspecified"

def Cause.names : Cause → String × String
  | .request c => ("RicRequest", c.name)
  | .service c => ("RicService", c.name)
  | .protocol c => ("Protocol", c.name)
  | .misc c => ("Misc", c.name)

def Cause.text (c : Cause) : String := c.names.1 ++ "(" ++ c.names.2 ++ ")"

end E2Node
