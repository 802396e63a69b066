import E2Node.Ident.Plmn
import E2Node.Text.Hex

namespace E2Node

structure CellId where
  val : UInt8
  deriving DecidableEq

structure EnbId where
  val : UInt32
  deriving DecidableEq

structure GnbId where
  val : UInt64
  deriving DecidableEq

structure Eci where
  val : UInt32
  deriving DecidableEq

structure Ecgi where
  val : UInt64
  deriving DecidableEq

structure GEnbId where
  val : UInt64
  deriving DecidableEq

def EnbId.max : UInt32 := 0xfffff

def EnbId.ofNumber (n : UInt32) : Except IdFault EnbId :=
  if n ≤ EnbId.max then .ok ⟨n⟩ else .error (.outOfRange "EnbId" n.toNat EnbId.max.toNat)

/-- High bits of a node number that is too wide are lost. -/
def Eci.ofParts (enb : EnbId) (cell : CellId) : Eci := ⟨enb.val * 256 + cell.val.toUInt32⟩

def eciRange : UInt64 := 0x10000000

namespace Ecgi

def ofParts (plmn : Plmn) (eci : Eci) : Ecgi :=
  ⟨plmn.u24.toUInt64 * eciRange + eci.val.toUInt64 % eciRange⟩

def plmnU24 (e : Ecgi) : UInt32 := (e.val / eciRange).toUInt32

def eci (e : Ecgi) : Eci := ⟨(e.val % eciRange).toUInt32⟩

def enbId (e : Ecgi) : EnbId := ⟨(e.val % eciRange / 256).toUInt32⟩

def cellId (e : Ecgi) : CellId := ⟨(e.val % 256).toUInt8⟩

def text (e : Ecgi) : String := "0x" ++ String.ofList (Hex.ofNat e.val.toNat)

end Ecgi

namespace GEnbId

def ofParts (plmn : Plmn) (enb : EnbId) : GEnbId :=
  ⟨plmn.u24.toUInt64 * eciRange + enb.val.toUInt64 * 256 % eciRange⟩

/-- The node a cell belongs to: its global identifier with the cell's byte cleared. -/
def ofEcgi (e : Ecgi) : GEnbId := ⟨e.val / 256 * 256⟩

def enbId (g : GEnbId) : EnbId := ⟨(g.val % eciRange / 256).toUInt32⟩

end GEnbId

end E2Node
