import E2Node.Ident.Cell
import E2Node.Number.Binary64

namespace E2Node

structure Location where
  lat : Binary64
  lng : Binary64
  deriving DecidableEq

def Location.origin : Location := ⟨.zero, .zero⟩

structure Sector where
  centre : Location
  azimuth : Int32
  arc : Int32
  deriving DecidableEq

structure Cell where
  ecgi : Ecgi
  location : Location
  sector : Option Sector
  maxUes : UInt32
  txPowerDb : Binary64
  deriving DecidableEq

end E2Node
