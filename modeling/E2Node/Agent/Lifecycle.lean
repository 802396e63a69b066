import E2Node.Agent.Dispatch
import E2Node.Model.Node

namespace E2Node

/-- How the controller behaves in the sessions opened from now on. -/
structure Peer where
  connectError : Option SessionError
  setup : Option (Except SessionError SetupOutcome)
  setupDelay : Nat
  earlyRequest : Option Pdu
  closeError : Option SessionError
  link : Link

def Peer.plain : Peer := ⟨none, none, 0, none, none, .fresh false 0⟩

/-- What the controller's end sees of the agent, with the agent's status at that moment. -/
inductive AgentEvent
  | connect (status : AgentStatus) (address : String)
  | setup (status : AgentStatus) (request : SetupRequest)
  | earlyReply (reply : Except SessionError Pdu)
  | close (status : AgentStatus)

inductive Call
  | start
  | stop
  deriving DecidableEq

/-- How far the call has come that has the lock. -/
inductive Stage
  | connecting
  | attached (session : SessionId)
  | settingUp (session : SessionId) (answered : Nat)
  | givingUp (session : SessionId) (error : RequestError)
  | closing (session : SessionId)

structure AgentConfig where
  node : NodeIdentity
  address : String
  models : ModelRegistry Node
  kpm : Kpm.Service

structure Lifecycle where
  agent : Agent
  node : Node
  peer : Peer
  peers : List Peer
  waiting : List Call
  holder : Option Stage
  monitors : List Monitor
  results : List (Except RequestError Unit)
  events : List AgentEvent

namespace Lifecycle

def begin (node : Node) : Lifecycle := ⟨.idle, node, .plain, [], [], none, [], [], []⟩

def now (l : Lifecycle) : Nat := l.node.reporting.now

def log (l : Lifecycle) (e : AgentEvent) : Lifecycle := { l with events := l.events ++ [e] }

def finish (l : Lifecycle) (r : Except RequestError Unit) : Lifecycle :=
  { l with holder := none, results := l.results ++ [r] }

def modifyReporting (l : Lifecycle) (f : Kpm.Reporting → Kpm.Reporting) : Lifecycle :=
  { l with node := { l.node with reporting := f l.node.reporting } }

def modifyLink (l : Lifecycle) (s : SessionId) (f : Link → Link) : Lifecycle :=
  l.modifyReporting fun r => r.modifyLink s f

def serve (c : AgentConfig) (p : Pdu) (l : Lifecycle) : Except SessionError Pdu × Lifecycle :=
  let r := (c.models.handler l.agent.attached).serve p l.node
  (r.1, { l with node := r.2 })

def request (c : AgentConfig) : SetupRequest :=
  ⟨c.node.gnb, c.node.plmn.encode, c.models.announced⟩

def accepted (c : AgentConfig) : SetupOutcome :=
  .success ⟨c.models.announced.map RanFunctionItem.id, []⟩

def acquire (c : AgentConfig) (l : Lifecycle) : Call → Lifecycle
  | .start =>
      match l.agent.beginStart with
      | .error e => l.finish (.error e)
      | .ok a => { l with agent := a, holder := some .connecting }.log (.connect a.status c.address)
  | .stop =>
      match l.agent.beginStop with
      | (none, a) => { l with agent := a }.finish (.ok ())
      | (some s, a) => { l with agent := a, holder := some (.closing s) }

def connect (c : AgentConfig) (l : Lifecycle) : Lifecycle :=
  match l.peer.connectError with
  | some e => { l with agent := l.agent.disconnect }.finish (.error (connectError c.address e))
  | none =>
      let s : SessionId := ⟨l.peers.length⟩
      let l := l.modifyReporting fun r => { r with links := r.links ++ [l.peer.link] }
      { l with
        peers := l.peers ++ [l.peer]
        agent := l.agent.attach s
        holder := some (.attached s) }

def peerOf (l : Lifecycle) (s : SessionId) : Peer := l.peers.getD s.val .plain

def beginSetup (c : AgentConfig) (l : Lifecycle) (s : SessionId) : Lifecycle :=
  let l := { l with
    agent := l.agent.awaitSetup
    holder := some (.settingUp s (l.now + (l.peerOf s).setupDelay)) }
  let l := l.log (.setup l.agent.status (request c))
  match (l.peerOf s).earlyRequest with
  | none => l
  | some p =>
      let r := l.serve c p
      r.2.log (.earlyReply r.1)

def setUp (c : AgentConfig) (l : Lifecycle) (s : SessionId) : Lifecycle :=
  match setupError? ((l.peerOf s).setup.getD (.ok (accepted c))) with
  | none =>
      let l := { l with agent := l.agent.activate }
      { l with monitors := l.monitors ++ [l.agent.monitor s] }.finish (.ok ())
  | some e => { l with agent := l.agent.detach, holder := some (.givingUp s e) }

def close (l : Lifecycle) (s : SessionId) : Except SessionError Unit × Lifecycle :=
  let l := (l.log (.close l.agent.status)).modifyLink s Link.close
  let r := match (l.peerOf s).closeError with
    | some e => .error e
    | none => .ok ()
  (r, { l with agent := l.agent.disconnect })

/-- The next moment of the calls, unless they wait for the controller. -/
def callStep? (c : AgentConfig) (l : Lifecycle) : Option Lifecycle :=
  match l.holder with
  | none =>
      match l.waiting with
      | [] => none
      | call :: rest => some (acquire c { l with waiting := rest } call)
  | some .connecting => some (connect c l)
  | some (.attached s) => some (beginSetup c l s)
  | some (.settingUp s answered) => if answered ≤ l.now then some (setUp c l s) else none
  | some (.givingUp s e) => some ((l.close s).2.finish (.error e))
  | some (.closing s) =>
      let r := l.close s
      some (r.2.finish (r.1.mapError .session))

/-- A monitor whose session has ended gets the lock. -/
def monitorStep? (l : Lifecycle) : Option Lifecycle :=
  if l.holder.isSome then none
  else
    match l.monitors.find? fun m => l.node.reporting.isClosed m.session with
    | none => none
    | some m =>
        some { l with agent := l.agent.sessionEnded m, monitors := l.monitors.erase m }

def momentsFor (l : Lifecycle) : Nat := 6 * (l.waiting.length + 1) + 2 * l.monitors.length

def run (c : AgentConfig) : Nat → Lifecycle → Lifecycle
  | 0, l => l
  | n + 1, l =>
      match (callStep? c l).orElse fun _ => l.monitorStep? with
      | some l => run c n l
      | none => l

/-- Calls and monitors come to a wait, then the node's tasks. -/
def settle (c : AgentConfig) (l : Lifecycle) : Lifecycle :=
  (l.run c l.momentsFor).modifyReporting fun r => r.settle c.kpm

def nextWake? (l : Lifecycle) : Option Nat :=
  match l.holder with
  | some (.settingUp _ answered) =>
      some ((l.node.reporting.nextWake?.map (min answered)).getD answered)
  | _ => l.node.reporting.nextWake?

def wait (c : AgentConfig) : Nat → Lifecycle → Lifecycle
  | 0, l => l
  | n + 1, l =>
      match l.holder, l.nextWake? with
      | some _, some w => wait c n ((l.modifyReporting fun r => r.atTime (max r.now w)).settle c)
      | _, _ => l

def perform (c : AgentConfig) (calls : List Call) (l : Lifecycle) :
    List (Except RequestError Unit) × Lifecycle :=
  let l := settle c { l with waiting := calls, results := [] }
  let l := l.wait c (calls.length * (l.peer.setupDelay + 1))
  (l.results, l)

def advance (c : AgentConfig) (millis : Nat) (l : Lifecycle) : Lifecycle :=
  (l.modifyReporting fun r => r.advance c.kpm millis).settle c

end Lifecycle

end E2Node
