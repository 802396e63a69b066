import E2Node.Kpm.Element
import E2Node.Model.Service
import E2Node.Subscription.Admission
import E2Node.Subscription.Request

namespace E2Node.Kpm

def functionId : RanFunctionId := ⟨1⟩

def modelName : String := "ORAN-E2SM-KPM"

def oid : String := "1.3.6.1.4.1.53148.1.1.2.2"

def capabilities : Description where
  shortName := modelName
  oid := oid
  description := "KPM Monitor"
  instanceId := 1
  triggerStyles := [⟨1, "Periodic report", 5⟩]
  reportStyles := [⟨1, "O-CU-CP Measurement Container for the 5GC connected deployment", 1, 1⟩]

structure Service where
  node : NodeIdentity
  codec : ElementCodec
  definition : List UInt8

namespace Service

def create (node : NodeIdentity) (codec : ElementCodec) : Except RequestError Service :=
  match codec.description capabilities with
  | .ok definition => .ok ⟨node, codec, definition⟩
  | .error e => .error e.error

def function (k : Service) : RanFunction := ⟨functionId, modelName, 1, oid, "v1", k.definition⟩

def header (k : Service) (collectionStart : Int64) : Header :=
  ⟨k.node.plmn.encode, k.node.gnb.val, "1", "SD1", k.node.plmn.encode, collectionStart⟩

end Service

def weigh (a : Admission) (x : RequestedAction) : Admission :=
  match x.type with
  | .report => a.accept x.id
  | .insert | .policy => a.refuse x.id (.request .actionNotSupported)

/-- Reports are admitted, all else is refused. -/
def admission (r : SubscriptionRequest) : Admission :=
  r.actions.foldl weigh (.start (.of r.request r.function))

def measurement (activeUes : Nat) : Measurement := ⟨UInt32.ofNat (min activeUes 0xffffffff)⟩

end E2Node.Kpm
