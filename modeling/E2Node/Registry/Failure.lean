import E2Node.E2ap.Failure
import E2Node.Ident.Ue
import E2Node.Subscription.Key

namespace E2Node

inductive Item
  | ue (imsi : Imsi)
  | cell (ecgi : Ecgi)
  | subscription (key : SubscriptionKey)
  | named (text : String)
  deriving DecidableEq

def Item.text : Item → String
  | .ue imsi => s!"UE {imsi.text}"
  | .cell ecgi => s!"cell {ecgi.text}"
  | .subscription key => s!"subscription {key.text}"
  | .named text => text

inductive RegistryError
  | notFound (what : Item)
  | alreadyExists (what : Item)
  | noCells
  | imsiSpaceExhausted
  deriving DecidableEq

namespace RegistryError

def message : RegistryError → String
  | .notFound what => s!"{what.text} not found"
  | .alreadyExists what => s!"{what.text} already exists"
  | .noCells => "No cells available"
  | .imsiSpaceExhausted => "IMSI space exhausted"

def error : RegistryError → RequestError
  | .notFound what => .notFound what.text
  | e => .invalid e.message

end RegistryError

end E2Node
