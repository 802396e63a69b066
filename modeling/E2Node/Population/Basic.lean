import E2Node.Population.Choice
import E2Node.Population.Feed

namespace E2Node

structure Population where
  ues : Table Imsi Ue
  nextCrnti : Crnti
  feeds : List Feed
  nextHandle : WatchHandle

structure WatchOptions where
  replay : Bool
  monitor : Bool
  deriving DecidableEq

def WatchOptions.default : WatchOptions := ⟨false, true⟩

namespace Population

def empty : Population := ⟨.empty, .first, [], ⟨0⟩⟩

def size (p : Population) : Nat := p.ues.size

def capacity : Nat := 9000000

/-- How many cells a list can have room for. To ask for more is fatal. -/
def mostCells : Nat := 0x7fffffffffffffff / 72

def notify (p : Population) (e : UeEvent) : Population :=
  { p with feeds := p.feeds.map (Feed.notify e) }

def firstFree (ues : Table Imsi Ue) : List Draw → Option (Draw × List Draw)
  | [] => none
  | d :: ds => if ues.contains d.imsi then firstFree ues ds else some (d, ds)

def insertNew (p : Population) (c : Cell) (d : Draw) : Population :=
  let ue := Ue.fresh d.imsi p.nextCrnti (.by c.ecgi d.strength)
  let p := p.notify ⟨.added, ue⟩
  { p with ues := p.ues.insert d.imsi ue, nextCrnti := p.nextCrnti.next }

def place : List Cell → List Draw → Population → Option (List Imsi × Population)
  | [], _, p => some ([], p)
  | c :: cs, ds, p =>
      match firstFree p.ues ds with
      | none => none
      | some (d, ds) =>
          match place cs ds (p.insertNew c d) with
          | none => none
          | some (imsis, p) => some (d.imsi :: imsis, p)

def insertAll (p : Population) (cells : List Cell) (ds : List Draw) :
    Option (Except RegistryError (List Imsi × Population)) :=
  if capacity < p.size + cells.length then some (.error .imsiSpaceExhausted)
  else (place cells ds p).map .ok

variable {σ : Type}

/-- Creates `n` members, or none if the source fails. No result while candidates are missing, or if
there can be no room for the cells, which is made before the source is asked. -/
def create (p : Population) (src : CellSource σ) (n : Nat) (ds : List Draw) (s : σ) :
    Option (Except RegistryError (List Imsi × Population)) × σ :=
  if mostCells < n then (none, s)
  else
    match src.gather n s with
    | (.error e, s) => (some (.error e), s)
    | (.ok cells, s) => (p.insertAll cells ds, s)

def destroy (p : Population) (imsi : Imsi) : Except RegistryError (Ue × Population) :=
  match p.ues.get? imsi with
  | none => .error (.notFound (.ue imsi))
  | some ue => .ok (ue, { p with ues := p.ues.erase imsi }.notify ⟨.deleted, ue⟩)

def discard (p : Population) (imsi : Imsi) : Population :=
  match p.destroy imsi with
  | .ok (_, q) => q
  | .error _ => p

def shrink (p : Population) (n : Nat) (order : Shuffle) : Population :=
  ((order.apply p.ues.keys).take n).foldl discard p

/-- Creates or destroys as many members as a population of size `current` lacks or has beyond
`n`. -/
def adjust (p : Population) (src : CellSource σ) (current n : Nat) (ds : List Draw)
    (order : Shuffle) (s : σ) : Option (Except RegistryError Population) × σ :=
  if current < n then
    let r := p.create src (n - current) ds s
    (r.1.map fun e => e.map Prod.snd, r.2)
  else if n < current then (some (.ok (p.shrink (current - n) order)), s)
  else (some (.ok p), s)

def setCount (p : Population) (src : CellSource σ) (n : Nat) (ds : List Draw) (order : Shuffle)
    (s : σ) : Option (Except RegistryError Population) × σ :=
  p.adjust src p.size n ds order s

def get (p : Population) (imsi : Imsi) : Except RegistryError Ue :=
  match p.ues.get? imsi with
  | some ue => .ok ue
  | none => .error (.notFound (.ue imsi))

def move (p : Population) (live : Ecgi → Bool) (imsi : Imsi) (ecgi : Ecgi) (strength : Binary64) :
    Except RegistryError Population :=
  if live ecgi then
    match p.ues.get? imsi with
    | none => .error (.notFound (.ue imsi))
    | some ue =>
        let ue := { ue with serving := .by ecgi strength }
        .ok ({ p with ues := p.ues.insert imsi ue }.notify ⟨.updated, ue⟩)
  else .error (.notFound (.cell ecgi))

def toList (p : Population) : List Ue :=
  p.ues.values.mergeSort fun a b => a.imsi.val ≤ b.imsi.val

def onCell (p : Population) (ecgi : Ecgi) : List Ue :=
  (p.ues.values.filter fun u => u.serving.ecgi = ecgi).mergeSort fun a b => a.imsi.val ≤ b.imsi.val

def imsis (p : Population) : List Imsi := p.ues.keys

def replay (p : Population) (order : Shuffle) : List UeEvent :=
  (order.apply p.ues.keys).filterMap fun i => (p.ues.get? i).map (UeEvent.mk .present)

/-- Begins a watch whose sink holds at most `capacity` events. Without monitoring the watch ends
with the replay. -/
def watch (p : Population) (capacity : Nat) (o : WatchOptions) (order : Shuffle) :
    WatchHandle × Population :=
  let feed : Feed :=
    ⟨p.nextHandle, o.monitor, if o.replay then p.replay order else [], none, true, [], capacity,
      true⟩
  (p.nextHandle, { p with feeds := p.feeds ++ [feed], nextHandle := ⟨p.nextHandle.val + 1⟩ })

def modifyFeed (p : Population) (h : WatchHandle) (f : Feed → Feed) : Population :=
  { p with feeds := p.feeds.map fun d => if d.handle = h then f d else d }

def feed? (p : Population) (h : WatchHandle) : Option Feed := p.feeds.find? (·.handle = h)

def unwatch (p : Population) (h : WatchHandle) : Bool × Population :=
  (p.feeds.any fun d => d.handle = h && d.listed, p.modifyFeed h Feed.unlist)

def watcherCount (p : Population) : Nat := p.feeds.countP Feed.listed

def settle (p : Population) : Population := { p with feeds := p.feeds.map Feed.settle }

def drain (p : Population) (h : WatchHandle) (max : Option Nat) :
    List UeEvent × Bool × Population :=
  match p.feed? h with
  | none => ([], true, p)
  | some d =>
      let r := d.drain (max.getD (d.pending.length + 1))
      (r.1, r.2.1, p.modifyFeed h fun _ => r.2.2)

end Population

end E2Node
