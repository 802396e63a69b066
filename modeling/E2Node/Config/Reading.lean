import E2Node.Config.Layout

namespace E2Node

structure Dialect (ν : Type) where
  text : ν → Option String
  natural : ν → Option Nat
  integer : ν → Option Int
  real : ν → Option Binary64
  items : ν → Option (List ν)
  fields : List String → ν → Option (List (Option ν))
  isAbsent : ν → Bool

namespace Dialect

variable {ν α : Type} (d : Dialect ν)

def word (limit : Nat) (v : ν) : Option Nat := (d.natural v).filter (· < limit)

def u8 (v : ν) : Option UInt8 := (d.word UInt8.size v).map UInt8.ofNat

def u16 (v : ν) : Option UInt16 := (d.word UInt16.size v).map UInt16.ofNat

def u32 (v : ν) : Option UInt32 := (d.word UInt32.size v).map UInt32.ofNat

def u64 (v : ν) : Option UInt64 := (d.word UInt64.size v).map UInt64.ofNat

def i32 (v : ν) : Option Int32 :=
  ((d.integer v).filter fun n =>
    Int32.minValue.toInt ≤ n ∧ n ≤ Int32.maxValue.toInt).map Int32.ofInt

def list (read : ν → Option α) (v : ν) : Option (List α) := (d.items v).bind (List.mapM read)

def required (read : ν → Option α) (v : Option ν) : Option α := v.bind read

def orElse (read : ν → Option α) (default : α) : Option ν → Option α
  | none => some default
  | some v => read v

def optional (read : ν → Option α) : Option ν → Option (Option α)
  | none => some none
  | some v => if d.isAbsent v then some none else (read v).map some

def location (v : ν) : Option Location := do
  match ← d.fields ["lat", "lng"] v with
  | [lat, lng] => return ⟨← required d.real lat, ← required d.real lng⟩
  | _ => none

def sector (v : ν) : Option SectorEntry := do
  match ← d.fields ["azimuth", "arc"] v with
  | [azimuth, arc] => return ⟨← required d.i32 azimuth, ← orElse d.i32 120 arc⟩
  | _ => none

def defaultPower : Binary64 := ⟨0x4024000000000000⟩

def cell (v : ν) : Option CellEntry := do
  match ← d.fields ["cell_id", "location", "sector", "max_ues", "tx_power_db"] v with
  | [id, location, sector, maxUes, txPower] =>
      return ⟨← required d.u8 id, ← required d.location location, ← d.optional d.sector sector,
        ← orElse d.u32 99999 maxUes, ← orElse d.real defaultPower txPower⟩
  | _ => none

def node (v : ν) : Option NodeEntry := do
  match ← d.fields ["gnb_id", "controllers", "cells"] v with
  | [gnb, controllers, cells] =>
      return ⟨← required d.u32 gnb, ← required (d.list d.text) controllers,
        ← required (d.list d.cell) cells⟩
  | _ => none

def controller (v : ν) : Option ControllerEntry := do
  match ← d.fields ["id", "address", "port"] v with
  | [id, address, port] =>
      return ⟨← required d.text id, ← required d.text address, ← orElse d.u16 36421 port⟩
  | _ => none

def defaultLevel : String := "info"

def logLevel (v : ν) : Option String := do
  match ← d.fields ["level"] v with
  | [level] => orElse d.text defaultLevel level
  | _ => none

def configuration (v : ν) : Option Configuration := do
  match ← d.fields ["plmn", "ue_count", "controllers", "nodes", "log"] v with
  | [plmn, ueCount, controllers, nodes, log] =>
      return ⟨← orElse d.text "31400" plmn, ← orElse d.u64 100 ueCount,
        ← required (d.list d.controller) controllers, ← required (d.list d.node) nodes,
        ← orElse d.logLevel defaultLevel log⟩
  | _ => none

end Dialect

/-- What a record gives for named fields. A named field may occur once; others are ignored. -/
def pickFields {κ ν : Type} [BEq κ] (names : List κ) (entries : List (κ × ν)) :
    Option (List (Option ν)) :=
  names.mapM fun n =>
    match entries.filter (·.1 == n) with
    | [] => some none
    | [e] => some (some e.2)
    | _ => none

/-- What a sequence gives for named fields: its elements in order, as far as there are any. -/
def alignFields {ν : Type} : List String → List ν → List (Option ν)
  | [], _ => []
  | _ :: ns, vs => vs.head? :: alignFields ns vs.tail

end E2Node
