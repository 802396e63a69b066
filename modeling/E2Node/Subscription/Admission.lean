import E2Node.Subscription.Key

namespace E2Node

/-- Refused actions by ascending identifier, each with its latest cause. -/
def Refusals := List (ActionId × Cause)
  deriving DecidableEq

namespace Refusals

def none : Refusals := ([] : List (ActionId × Cause))

def insertList (id : ActionId) (c : Cause) : List (ActionId × Cause) → List (ActionId × Cause)
  | [] => [(id, c)]
  | (i, d) :: rest =>
      if id.val < i.val then (id, c) :: (i, d) :: rest
      else if id = i then (id, c) :: rest
      else (i, d) :: insertList id c rest

def insert (r : Refusals) (id : ActionId) (c : Cause) : Refusals := insertList id c r

def toList (r : Refusals) : List (ActionId × Cause) := r

end Refusals

structure Admission where
  key : SubscriptionKey
  accepted : List ActionId
  refused : Refusals
  deriving DecidableEq

namespace Admission

def start (key : SubscriptionKey) : Admission := ⟨key, [], .none⟩

def accept (a : Admission) (id : ActionId) : Admission :=
  { a with accepted := a.accepted ++ [id] }

def refuse (a : Admission) (id : ActionId) (c : Cause) : Admission :=
  { a with refused := a.refused.insert id c }

def anyAccepted (a : Admission) : Bool := !a.accepted.isEmpty

def response (a : Admission) : SubscriptionResponse :=
  ⟨a.key.request, a.key.function, a.accepted, a.refused.toList⟩

end Admission

def SubscriptionKey.failure (k : SubscriptionKey) (c : Cause) : SubscriptionFailure :=
  ⟨k.request, k.function, c⟩

def SubscriptionKey.deleteResponse (k : SubscriptionKey) : SubscriptionDeleteResponse :=
  ⟨k.request, k.function⟩

end E2Node
