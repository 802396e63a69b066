import E2Node.Agent.Lifecycle
import E2Node.Config.Layout
import E2Node.Session.Address

namespace E2Node

inductive LaunchError
  | configuration (fault : ConfigFault)
  | population (cause : RegistryError)
  | noRoom
  | agent (cause : RequestError)
  deriving DecidableEq

def LaunchError.message : LaunchError → String
  | .configuration fault => fault.message
  | .population _ => "creating UE population"
  | .noRoom => "capacity overflow"
  | .agent cause => cause.message

structure Launch where
  population : Population
  agents : List (AgentConfig × Lifecycle)

namespace Launch

def candidates (cells : CellRegistry) (count : Nat) : List Draw :=
  Draw.row 0 (if cells.size = 0 then 0 else min count Population.capacity)

/-- A population on these cells. Without a free candidate the identities count as exhausted. -/
def populate (cells : CellRegistry) (count : Nat) (ds : List Draw) :
    Except LaunchError Population :=
  match (Population.empty.create .rotation count ds ⟨cells, 0⟩).1 with
  | some (.ok (_, p)) => .ok p
  | some (.error e) => .error (.population e)
  | none =>
      .error (if Population.mostCells < count then .noRoom else .population .imsiSpaceExhausted)

def agentTowards (node : NodeIdentity) (address : String) : Except RequestError AgentConfig :=
  match Kpm.Service.create node .standard with
  | .error e => .error e
  | .ok k =>
      match ModelRegistry.empty.register (Node.kpm k) with
      | .error e => .error e
      | .ok models => .ok ⟨node, address, models, k⟩

def pairs (c : Configuration) : List (NodeEntry × String) :=
  c.nodes.flatMap fun n => n.controllers.map fun id => (n, id)

def agentFor (c : Configuration) (plmn : Plmn) (p : NodeEntry × String) :
    Except LaunchError AgentConfig :=
  match c.controller p.2 with
  | .error e => .error (.configuration e)
  | .ok entry => (agentTowards ⟨p.1.id, plmn⟩ entry.endpoint).mapError .agent

def create (c : Configuration) (count : Nat) (ds : List Draw) (epoch : Int) :
    Except LaunchError Launch := do
  let plmn ← c.plmnId.mapError .configuration
  let cells ← c.cells.mapError .configuration
  let population ← populate (.ofList cells) count ds
  let agents ← (pairs c).mapM (agentFor c plmn)
  return ⟨population, agents.map fun a => (a, .begin ⟨.start population epoch, []⟩)⟩

def call (peer : String → Peer) (what : Call) (l : Launch) :
    List (Except RequestError Unit) × Launch :=
  let rs := l.agents.map fun a =>
    let r := { a.2 with peer := peer a.1.address }.perform a.1 [what]
    (r.1, (a.1, r.2))
  (rs.flatMap Prod.fst, { l with agents := rs.map Prod.snd })

def activeCount (l : Launch) : Nat := l.agents.countP fun a => a.2.agent.status = .active

end Launch

def Peer.absent (address : String) : Peer :=
  let why := (Address.error? address).getD (.connectionFailed s!"{address}: connection refused")
  { Peer.plain with connectError := some why }

end E2Node
