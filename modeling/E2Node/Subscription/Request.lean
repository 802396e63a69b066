import E2Node.E2ap.Failure
import E2Node.E2ap.Message

namespace E2Node

inductive RequestFault
  | functionOutOfRange (id : RanFunctionId)
  | tooManyActions (count : Nat)
  | duplicateAction (id : ActionId)
  deriving DecidableEq

def RequestFault.message : RequestFault → String
  | .functionOutOfRange id => s!"RAN function id {id.text} out of range"
  | .tooManyActions count => s!"subscription carries {count} actions"
  | .duplicateAction id => s!"duplicate action id {id.val.toNat}"

def RequestFault.error (f : RequestFault) : RequestError := .invalid f.message

def firstRepeat {α : Type} [DecidableEq α] : List α → List α → Option α
  | _, [] => none
  | seen, a :: as => if a ∈ seen then some a else firstRepeat (a :: seen) as

namespace SubscriptionRequest

def maxActions : Nat := 16

def fault? (r : SubscriptionRequest) : Option RequestFault :=
  if RanFunctionId.max < r.function.val then some (.functionOutOfRange r.function)
  else if maxActions < r.actions.length then some (.tooManyActions r.actions.length)
  else (firstRepeat [] (r.actions.map RequestedAction.id)).map .duplicateAction

end SubscriptionRequest

end E2Node
