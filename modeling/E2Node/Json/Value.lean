import E2Node.Config.Reading
import E2Node.Json.Reader

namespace E2Node.Json

def fitDigits (n : Nat) : List Char → Nat × List Char
  | [] => (n, [])
  | c :: s =>
      let m := 10 * n + (c.toNat - 48)
      if m < UInt64.size then fitDigits m s else (n, c :: s)

def maxPower : Nat := 308

def powerMagnitude (k : Nat) : Nat := Binary64.roundQuotient (Nat.pow 10 k) 1

def scaleUp (m k : Nat) : Option Nat :=
  if m = 0 then some 0
  else if maxPower < k then none
  else
    let r := Binary64.mulMagnitude m (powerMagnitude k)
    if r < Binary64.infinityMagnitude then some r else none

def scaleDown : Nat → Nat → Nat → Nat
  | 0, _, _ => 0
  | n + 1, m, k =>
      if k ≤ maxPower then Binary64.divMagnitude m (powerMagnitude k)
      else scaleDown n (Binary64.divMagnitude m (powerMagnitude maxPower)) (k - maxPower)

def scaled (m : Nat) (e : Int) : Option Nat :=
  if 0 ≤ e then scaleUp m e.toNat else some (scaleDown 4 m (-e).toNat)

/-- The magnitude of a numeral, if it is finite. Digits of the fraction that do not fit are
dropped. -/
def magnitude? (n : Numeral) : Option Nat :=
  let (w, wholeLeft) := fitDigits 0 n.whole
  let (f, fractionLeft) := fitDigits w n.fraction
  let e := (wholeLeft.length : Int) + fractionLeft.length - n.fraction.length + n.exponentValue
  scaled (Binary64.roundQuotient f 1) e

def real? (n : Numeral) : Option Binary64 := (magnitude? n).map (.ofMagnitude n.negative)

def integer? (n : Numeral) : Option Int :=
  let v := Numeral.readDigits 0 n.whole
  if !n.isWhole then none
  else if n.negative then if 0 < v ∧ Int64.minValue.toInt ≤ -v then some (-v) else none
  else if v < UInt64.size then some v
  else none

def namedEntry? (e : Option (List Char) × Tree) : Option (String × Tree) :=
  e.1.map fun k => (String.ofList k, e.2)

def dialect : Dialect Tree where
  text
    | .text s => s.map String.ofList
    | _ => none
  natural
    | .number n => (integer? n).bind Int.toNat?
    | _ => none
  integer
    | .number n => integer? n
    | _ => none
  real
    | .number n => real? n
    | _ => none
  items
    | .list ts => some ts
    | _ => none
  fields names
    | .list ts => if ts.length ≤ names.length then some (alignFields names ts) else none
    | .record es =>
        (es.mapM namedEntry?).bind (pickFields names)
    | _ => none
  isAbsent
    | .null => true
    | _ => false

def ofText (s : String) : Tree := .text (some s.toList)

def ofInt (n : Int) : Tree := .number (.ofInt n)

def ofReal (x : Binary64) : Tree := if x.isFinite then .number x.numeral else .null

def ofFields (fields : List (String × Tree)) : Tree :=
  .record (fields.map fun f => (some f.1.toList, f.2))

def ofLocation (l : Location) : Tree := ofFields [("lat", ofReal l.lat), ("lng", ofReal l.lng)]

def ofSector (s : SectorEntry) : Tree :=
  ofFields [("azimuth", ofInt s.azimuth.toInt), ("arc", ofInt s.arc.toInt)]

def ofCell (c : CellEntry) : Tree :=
  ofFields ([("cell_id", ofInt c.id.toNat), ("location", ofLocation c.location)] ++
    (c.sector.map fun s => ("sector", ofSector s)).toList ++
    [("max_ues", ofInt c.maxUes.toNat), ("tx_power_db", ofReal c.txPowerDb)])

def ofNode (n : NodeEntry) : Tree :=
  ofFields [("gnb_id", ofInt n.gnb.toNat), ("controllers", .list (n.controllers.map ofText)),
    ("cells", .list (n.cells.map ofCell))]

def ofController (c : ControllerEntry) : Tree :=
  ofFields [("id", ofText c.id), ("address", ofText c.address), ("port", ofInt c.port.toNat)]

def ofConfiguration (c : Configuration) : Tree :=
  ofFields [("plmn", ofText c.plmn), ("ue_count", ofInt c.ueCount.toNat),
    ("controllers", .list (c.controllers.map ofController)),
    ("nodes", .list (c.nodes.map ofNode)), ("log", ofFields [("level", ofText c.logLevel)])]

end E2Node.Json
