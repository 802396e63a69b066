import E2Node.Radio.Cell
import E2Node.Registry.Failure
import E2Node.Registry.Table

namespace E2Node

structure CellRegistry where
  cells : Table Ecgi Cell

namespace CellRegistry

/-- Of several cells with one identifier the last counts. -/
def ofList (cells : List Cell) : CellRegistry := ⟨.ofList (cells.map fun c => (c.ecgi, c))⟩

def contains (r : CellRegistry) (e : Ecgi) : Bool := r.cells.contains e

def size (r : CellRegistry) : Nat := r.cells.size

def toList (r : CellRegistry) : List Cell :=
  r.cells.values.mergeSort fun a b => a.ecgi.val ≤ b.ecgi.val

def add (r : CellRegistry) (c : Cell) : Except RegistryError CellRegistry :=
  if r.contains c.ecgi then .error (.alreadyExists (.cell c.ecgi))
  else .ok ⟨r.cells.insert c.ecgi c⟩

def get (r : CellRegistry) (e : Ecgi) : Except RegistryError Cell :=
  match r.cells.get? e with
  | some c => .ok c
  | none => .error (.notFound (.cell e))

def remove (r : CellRegistry) (e : Ecgi) : Except RegistryError (Cell × CellRegistry) :=
  match r.cells.get? e with
  | some c => .ok (c, ⟨r.cells.erase e⟩)
  | none => .error (.notFound (.cell e))

def pick (r : CellRegistry) (choice : Nat) : Except RegistryError Cell :=
  match r.toList[choice % r.size]? with
  | some c => .ok c
  | none => .error .noCells

end CellRegistry

end E2Node
