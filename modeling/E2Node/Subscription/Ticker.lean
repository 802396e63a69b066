namespace E2Node

structure TickerId where
  val : Nat
  deriving DecidableEq

structure Tickers where
  created : Nat
  stopped : List TickerId
  deriving DecidableEq

namespace Tickers

def empty : Tickers := ⟨0, []⟩

def next (t : Tickers) : TickerId := ⟨t.created⟩

def create (t : Tickers) : Tickers := { t with created := t.created + 1 }

def stop (t : Tickers) (id : TickerId) : Tickers := { t with stopped := id :: t.stopped }

def isStopped (t : Tickers) (id : TickerId) : Bool := id ∈ t.stopped

/-- Whether a task waiting for its ticker wakes up: the ticker is stopped, or nobody is left to
stop it. -/
def wakes (t : Tickers) (holders : List TickerId) (id : TickerId) : Bool :=
  t.isStopped id || id ∉ holders

end Tickers

end E2Node
