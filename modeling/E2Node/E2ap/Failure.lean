import E2Node.E2ap.Cause
import E2Node.Wire.Codec

namespace E2Node

inductive SessionError
  | io (reason : String)
  | malformed (fault : Wire.Fault)
  | connectionFailed (reason : String)
  | closed
  | unexpectedPdu (name : String)
  | frameTooLarge (length : Nat)
  | setupTimeout
  deriving DecidableEq

def SessionError.cutShort : SessionError := .io "early eof"

def SessionError.message : SessionError → String
  | .io reason => s!"I/O error: {reason}"
  | .malformed fault => s!"Serialization error: {fault.message}"
  | .connectionFailed reason => s!"Connection failed: {reason}"
  | .closed => "Channel closed"
  | .unexpectedPdu name => s!"Unexpected PDU: {name}"
  | .frameTooLarge length => s!"Frame of {length} bytes exceeds limit"
  | .setupTimeout => "E2 setup timed out"

inductive RequestError
  | notFound (what : String)
  | invalid (reason : String)
  | notSupported (what : String)
  | unknown (reason : String)
  | encoding (reason : String)
  | session (error : SessionError)
  deriving DecidableEq

namespace RequestError

def message : RequestError → String
  | .notFound what => s!"Not found: {what}"
  | .invalid reason => s!"Invalid: {reason}"
  | .notSupported what => s!"Not supported: {what}"
  | .unknown reason => s!"Unknown: {reason}"
  | .encoding reason => s!"Encoding failed: {reason}"
  | .session error => error.message

def cause : RequestError → Cause
  | .notFound _ => .request .requestIdUnknown
  | .invalid _ => .protocol .abstractSyntaxErrorReject
  | .notSupported _ => .request .ranFunctionIdInvalid
  | .unknown _ | .encoding _ | .session _ => .misc .unspecified

end RequestError

end E2Node
