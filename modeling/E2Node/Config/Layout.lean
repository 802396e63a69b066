import E2Node.Radio.Cell

namespace E2Node

structure ControllerEntry where
  id : String
  address : String
  port : UInt16
  deriving DecidableEq

def ControllerEntry.endpoint (c : ControllerEntry) : String := s!"{c.address}:{c.port.toNat}"

structure SectorEntry where
  azimuth : Int32
  arc : Int32
  deriving DecidableEq

structure CellEntry where
  id : UInt8
  location : Location
  sector : Option SectorEntry
  maxUes : UInt32
  txPowerDb : Binary64
  deriving DecidableEq

structure NodeEntry where
  gnb : UInt32
  controllers : List String
  cells : List CellEntry
  deriving DecidableEq

structure Configuration where
  plmn : String
  ueCount : UInt64
  controllers : List ControllerEntry
  nodes : List NodeEntry
  logLevel : String
  deriving DecidableEq

def NodeEntry.id (n : NodeEntry) : GnbId := ⟨n.gnb.toUInt64⟩

def CellEntry.cell (c : CellEntry) (plmn : Plmn) (enb : EnbId) : Cell :=
  ⟨.ofParts plmn (.ofParts enb ⟨c.id⟩), c.location,
    c.sector.map fun s => ⟨c.location, s.azimuth, s.arc⟩, c.maxUes, c.txPowerDb⟩

/-- Why a configuration that can be read is refused. -/
inductive ConfigFault
  | identifier (fault : IdFault)
  | noNodes
  | duplicateNode (gnb : UInt32)
  | noController (gnb : UInt32)
  | unknownController (gnb : UInt32) (id : String)
  | missingController (id : String)
  deriving DecidableEq

def ConfigFault.message : ConfigFault → String
  | .identifier fault => fault.message
  | .noNodes => "No E2 nodes configured"
  | .duplicateNode gnb => s!"Duplicate gNB id {gnb.toNat}"
  | .noController gnb => s!"gNB {gnb.toNat} has no controller"
  | .unknownController gnb id => s!"gNB {gnb.toNat} references unknown controller {id}"
  | .missingController id => s!"Unknown controller {id}"

namespace Configuration

def plmnId (c : Configuration) : Except ConfigFault Plmn :=
  (Plmn.parse c.plmn).mapError .identifier

def controller (c : Configuration) (id : String) : Except ConfigFault ControllerEntry :=
  match c.controllers.find? (·.id = id) with
  | some e => .ok e
  | none => .error (.missingController id)

def nodeFault? (c : Configuration) (earlier : List UInt32) (n : NodeEntry) : Option ConfigFault :=
  match EnbId.ofNumber n.gnb with
  | .error e => some (.identifier e)
  | .ok _ =>
      if n.gnb ∈ earlier then some (.duplicateNode n.gnb)
      else if n.controllers.isEmpty then some (.noController n.gnb)
      else
        (n.controllers.find? fun id => c.controllers.all fun e => e.id ≠ id).map
          (.unknownController n.gnb)

def nodesFault? (c : Configuration) : List UInt32 → List NodeEntry → Option ConfigFault
  | _, [] => none
  | earlier, n :: ns =>
      (c.nodeFault? earlier n).orElse fun _ => c.nodesFault? (n.gnb :: earlier) ns

def fault? (c : Configuration) : Option ConfigFault :=
  match c.plmnId with
  | .error e => some e
  | .ok _ => if c.nodes.isEmpty then some .noNodes else c.nodesFault? [] c.nodes

def nodeCells (plmn : Plmn) (n : NodeEntry) : Except ConfigFault (List Cell) :=
  match EnbId.ofNumber n.gnb with
  | .error e => .error (.identifier e)
  | .ok enb => .ok (n.cells.map fun c => c.cell plmn enb)

def cells (c : Configuration) : Except ConfigFault (List Cell) :=
  match c.plmnId with
  | .error e => .error e
  | .ok plmn => (c.nodes.mapM (nodeCells plmn)).map List.flatten

end Configuration

end E2Node
