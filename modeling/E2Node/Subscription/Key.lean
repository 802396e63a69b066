import E2Node.E2ap.Message

namespace E2Node

structure SubscriptionKey where
  instanceId : UInt32
  requestor : UInt32
  function : RanFunctionId
  deriving DecidableEq

namespace SubscriptionKey

def of (request : RequestId) (function : RanFunctionId) : SubscriptionKey :=
  ⟨request.instanceId, request.requestor, function⟩

def request (k : SubscriptionKey) : RequestId := ⟨k.requestor, k.instanceId⟩

def text (k : SubscriptionKey) : String :=
  s!"{k.instanceId.toNat}:{k.requestor.toNat}:{k.function.text}"

def le (a b : SubscriptionKey) : Bool :=
  a.instanceId < b.instanceId ∨ a.instanceId = b.instanceId ∧
    (a.requestor < b.requestor ∨ a.requestor = b.requestor ∧ a.function.val ≤ b.function.val)

end SubscriptionKey

end E2Node
