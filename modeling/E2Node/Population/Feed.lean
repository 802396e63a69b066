import E2Node.Population.Ue

namespace E2Node

structure WatchHandle where
  val : Nat
  deriving DecidableEq

structure Feed where
  handle : WatchHandle
  listed : Bool
  queue : List UeEvent
  held : Option UeEvent
  forwarding : Bool
  sink : List UeEvent
  capacity : Nat
  receiving : Bool
  deriving DecidableEq

namespace Feed

/-- Queues an event. A feed whose forwarder has ended is struck off instead. -/
def notify (e : UeEvent) (f : Feed) : Feed :=
  if f.listed then
    if f.forwarding then { f with queue := f.queue ++ [e] } else { f with listed := false }
  else f

def unlist (f : Feed) : Feed := { f with listed := false }

def abandon (f : Feed) : Feed := { f with forwarding := false, held := none, queue := [] }

/-- One step of the forwarder, unless it waits. It learns that the watcher has gone only when it
puts an event into the sink. -/
def forward? (f : Feed) : Option Feed :=
  if f.forwarding then
    match f.held with
    | some e =>
        if f.receiving then
          if f.sink.length < f.capacity then some { f with held := none, sink := f.sink ++ [e] }
          else none
        else some f.abandon
    | none =>
        match f.queue with
        | e :: rest => some { f with held := some e, queue := rest }
        | [] => if f.listed then none else some { f with forwarding := false }
  else none

def forward : Nat → Feed → Feed
  | 0, f => f
  | n + 1, f =>
      match f.forward? with
      | some g => forward n g
      | none => f

def settle (f : Feed) : Feed := f.forward (2 * f.queue.length + 2)

def isClosed (f : Feed) : Bool := f.sink.isEmpty && !f.forwarding

def receive? (f : Feed) : Option (UeEvent × Feed) :=
  match f.sink with
  | e :: rest => some (e, { f with sink := rest })
  | [] => none

def dropReceiver (f : Feed) : Feed := { f with receiving := false, sink := [] }

def drain : Nat → Feed → List UeEvent × Bool × Feed
  | 0, f => ([], false, f)
  | n + 1, f =>
      match f.settle.receive? with
      | some (e, g) =>
          let r := drain n g
          (e :: r.1, r.2)
      | none => ([], f.settle.isClosed, f.settle)

def pending (f : Feed) : List UeEvent := f.sink ++ f.held.toList ++ f.queue

end Feed

end E2Node
