import E2Node.Registry.Failure
import E2Node.Registry.Table
import E2Node.Session.Link
import E2Node.Subscription.Admission
import E2Node.Subscription.Ticker

namespace E2Node

structure Subscription where
  key : SubscriptionKey
  accepted : List ActionId
  refused : Refusals
  session : SessionId
  ticker : Option TickerId
  deriving DecidableEq

namespace Subscription

def braced (s : String) : String := "\x7b" ++ s ++ "\x7d"

def describe (s : Subscription) : String :=
  "Subscription \x7b id: SubscriptionId " ++
    braced (s!" instance_id: {s.key.instanceId.toNat}, requestor_id: {s.key.requestor.toNat}" ++
      s!", ran_function_id: RanFunctionId({s.key.function.text}) ") ++
    ", actions_accepted: [" ++
    ", ".intercalate (s.accepted.map fun a => s!"RicActionId({a.val.toNat})") ++
    "], actions_not_admitted: " ++
    braced (", ".intercalate (s.refused.toList.map fun r =>
      s!"RicActionId({r.1.val.toNat}): {r.2.text}")) ++
    ", ticker: " ++
    match s.ticker with
    | none => "None, .. \x7d"
    | some _ => "Some(ReportTicker \x7b "

end Subscription

structure Subscriptions where
  entries : Table SubscriptionKey Subscription

namespace Subscriptions

def empty : Subscriptions := ⟨.empty⟩

def size (r : Subscriptions) : Nat := r.entries.size

def isEmpty (r : Subscriptions) : Bool := r.entries.isEmpty

def get (r : Subscriptions) (k : SubscriptionKey) : Except RegistryError Subscription :=
  match r.entries.get? k with
  | some s => .ok s
  | none => .error (.notFound (.subscription k))

def add (r : Subscriptions) (s : Subscription) : Except RegistryError Subscriptions :=
  if r.entries.contains s.key then .error (.alreadyExists (.subscription s.key))
  else .ok ⟨r.entries.insert s.key s⟩

def remove (r : Subscriptions) (k : SubscriptionKey) :
    Except RegistryError (Subscription × Subscriptions) :=
  match r.entries.get? k with
  | some s => .ok (s, ⟨r.entries.erase k⟩)
  | none => .error (.notFound (.subscription k))

/-- Whether the entry of a key is driven by this ticker. -/
def owns (r : Subscriptions) (k : SubscriptionKey) (t : TickerId) : Bool :=
  match r.entries.get? k with
  | some s => s.ticker = some t
  | none => false

def release (r : Subscriptions) (k : SubscriptionKey) (t : TickerId) : Subscriptions :=
  if r.owns k t then ⟨r.entries.erase k⟩ else r

def keys (r : Subscriptions) : List SubscriptionKey := r.entries.keys.mergeSort SubscriptionKey.le

def toList (r : Subscriptions) : List Subscription :=
  r.entries.values.mergeSort fun a b => a.key.le b.key

def tickers (r : Subscriptions) : List TickerId := r.entries.values.filterMap Subscription.ticker

end Subscriptions

end E2Node
