import E2Node.Ident.Ue
import E2Node.Radio.Cell

namespace E2Node

structure Serving where
  node : GEnbId
  ecgi : Ecgi
  strength : Binary64
  deriving DecidableEq

def Serving.by (ecgi : Ecgi) (strength : Binary64) : Serving := ⟨.ofEcgi ecgi, ecgi, strength⟩

structure Ue where
  imsi : Imsi
  type : String
  location : Location
  rotation : UInt32
  serving : Serving
  crnti : Crnti
  admitted : Bool
  deriving DecidableEq

def Ue.fresh (imsi : Imsi) (crnti : Crnti) (serving : Serving) : Ue :=
  ⟨imsi, "phone", .origin, 0, serving, crnti, false⟩

inductive UeChange
  | present
  | added
  | updated
  | deleted
  deriving DecidableEq

structure UeEvent where
  change : UeChange
  ue : Ue
  deriving DecidableEq

end E2Node
