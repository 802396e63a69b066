import E2Node.Model.Service
import E2Node.Subscription.Admission

namespace E2Node

structure Tally where
  subscriptions : Nat
  deletes : Nat
  controls : Nat
  deriving DecidableEq

namespace Tally

def zero : Tally := ⟨0, 0, 0⟩

def admitAll (r : SubscriptionRequest) : Admission :=
  r.actions.foldl (fun a x => a.accept x.id) (.start (.of r.request r.function))

def controlOutcome (r : ControlRequest) : ControlOutcome :=
  if r.ackRequested then .success ⟨r.request, r.function, r.callProcess, some r.message⟩
  else .failure ⟨r.request, r.function, r.callProcess, .misc .unspecified⟩

def model (f : RanFunction) : ServiceModel Tally where
  function := f
  subscription _ r t :=
    (.ok (.success (admitAll r).response), { t with subscriptions := t.subscriptions + 1 })
  delete r t :=
    (.ok (.success (SubscriptionKey.of r.request r.function).deleteResponse),
      { t with deletes := t.deletes + 1 })
  control r t := (.ok (controlOutcome r), { t with controls := t.controls + 1 })
  update _ t := (.error (.notSupported "connection update"), t)

end Tally

end E2Node
