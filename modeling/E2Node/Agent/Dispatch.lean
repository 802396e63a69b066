import E2Node.Agent.Basic
import E2Node.Procedure.Serve

namespace E2Node

namespace ModelRegistry

variable {σ : Type}

def notSupported (id : RanFunctionId) : RequestError :=
  .notSupported s!"RAN function {id.text} is not supported"

def noSession : RequestError := .unknown "no active E2 session"

def subscription (models : ModelRegistry σ) (attached : Option SessionId)
    (r : SubscriptionRequest) (s : σ) : Except RequestError SubscriptionOutcome × σ :=
  match models.get? r.function with
  | none => (.error (notSupported r.function), s)
  | some m =>
      match attached with
      | none => (.error noSession, s)
      | some session => m.subscription session r s

def delete (models : ModelRegistry σ) (r : SubscriptionDeleteRequest) (s : σ) :
    Except RequestError DeleteOutcome × σ :=
  match models.get? r.function with
  | none => (.error (notSupported r.function), s)
  | some m => m.delete r s

def control (models : ModelRegistry σ) (r : ControlRequest) (s : σ) :
    Except RequestError ControlOutcome × σ :=
  match models.get? r.function with
  | none => (.error (notSupported r.function), s)
  | some m => m.control r s

def handler (models : ModelRegistry σ) (attached : Option SessionId) : Handler σ where
  subscription := models.subscription attached
  delete := models.delete
  control := models.control
  update _ s := (.error (.notSupported "E2 connection update is not supported"), s)

end ModelRegistry

end E2Node
