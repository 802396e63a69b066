import E2Node.Model.Service

namespace E2Node

inductive AgentStatus
  | disconnected
  | connecting
  | setupPending
  | active
  deriving DecidableEq

def AgentStatus.text : AgentStatus → String
  | .disconnected => "disconnected"
  | .connecting => "connecting"
  | .setupPending => "setup pending"
  | .active => "active"

structure Agent where
  status : AgentStatus
  attached : Option SessionId
  lifecycle : Nat
  deriving DecidableEq

structure Monitor where
  session : SessionId
  lifecycle : Nat
  deriving DecidableEq

namespace Agent

def idle : Agent := ⟨.disconnected, none, 0⟩

def beginStart (a : Agent) : Except RequestError Agent :=
  if a.status = .disconnected then
    .ok { a with status := .connecting, lifecycle := a.lifecycle + 1 }
  else .error (.invalid s!"E2 agent is already {a.status.text}")

def disconnect (a : Agent) : Agent := { a with status := .disconnected }

def attach (a : Agent) (s : SessionId) : Agent := { a with attached := some s }

def awaitSetup (a : Agent) : Agent := { a with status := .setupPending }

def detach (a : Agent) : Agent := { a with attached := none }

def activate (a : Agent) : Agent := { a with status := .active }

def beginStop (a : Agent) : Option SessionId × Agent :=
  let b := { a with lifecycle := a.lifecycle + 1, attached := none }
  (a.attached, if a.attached.isSome then b else b.disconnect)

def monitor (a : Agent) (s : SessionId) : Monitor := ⟨s, a.lifecycle⟩

/-- The end of a session that has been stopped or replaced changes nothing. -/
def sessionEnded (a : Agent) (m : Monitor) : Agent :=
  if m.lifecycle = a.lifecycle then a.detach.disconnect else a

end Agent

def connectError (address : String) (e : SessionError) : RequestError :=
  .unknown s!"connecting to {address} failed: {e.message}"

def setupError? : Except SessionError SetupOutcome → Option RequestError
  | .ok (.success _) => none
  | .ok (.failure f) => some (.invalid s!"E2 setup rejected: {f.cause.text}")
  | .error e => some (.unknown s!"E2 setup failed: {e.message}")

end E2Node
