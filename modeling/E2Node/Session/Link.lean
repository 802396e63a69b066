import E2Node.E2ap.Failure
import E2Node.Subscription.Key

namespace E2Node

structure SessionId where
  val : Nat
  deriving DecidableEq

structure Sent where
  time : Nat
  indication : Indication
  deriving DecidableEq

def Sent.key (s : Sent) : SubscriptionKey := .of s.indication.request s.indication.function

def Sent.le (a b : Sent) : Bool :=
  a.time < b.time ∨ a.time = b.time ∧
    (a.key ≠ b.key ∧ a.key.le b.key ∨
      a.key = b.key ∧ a.indication.sequenceNumber.getD 0 ≤ b.indication.sequenceNumber.getD 0)

structure Link where
  closed : Bool
  failing : Bool
  sendDelay : Nat
  sent : List Sent
  deriving DecidableEq

namespace Link

def fresh (failing : Bool) (sendDelay : Nat) : Link := ⟨false, failing, sendDelay, []⟩

def close (l : Link) : Link := { l with closed := true }

def refusal? (l : Link) : Option SessionError :=
  if l.closed then some .closed
  else if l.failing then some (.io "send failed")
  else none

def record (l : Link) (time : Nat) (i : Indication) : Link :=
  { l with sent := l.sent ++ [⟨time, i⟩] }

end Link

end E2Node
