import E2Node.Ident.Fault

namespace E2Node

structure Octets where
  first : UInt8
  second : UInt8
  third : UInt8
  deriving DecidableEq

def Octets.u24 (o : Octets) : UInt32 :=
  o.first.toUInt32 * 65536 + o.second.toUInt32 * 256 + o.third.toUInt32

def Octets.toList (o : Octets) : List UInt8 := [o.first, o.second, o.third]

structure Plmn where
  mcc : Octets
  mnc : Octets
  mncLength : UInt8
  deriving DecidableEq

namespace Plmn

def IsDigits (o : Octets) : Prop := o.first ≤ 9 ∧ o.second ≤ 9 ∧ o.third ≤ 9

instance (o : Octets) : Decidable (IsDigits o) := by unfold IsDigits; infer_instance

def WellFormed (p : Plmn) : Prop :=
  IsDigits p.mcc ∧ IsDigits p.mnc ∧ (p.mncLength = 2 ∨ p.mncLength = 3)

instance (p : Plmn) : Decidable p.WellFormed := by unfold WellFormed; infer_instance

def ofFields? (mcc mnc : Octets) (mncLength : UInt8) : Option Plmn :=
  if (Plmn.mk mcc mnc mncLength).WellFormed then some ⟨mcc, mnc, mncLength⟩ else none

def digit? (c : Char) : Option UInt8 :=
  if '0' ≤ c ∧ c ≤ '9' then some (UInt8.ofNat (c.toNat - 48)) else none

/-- Five or six ASCII digits; a missing sixth is stored as zero. -/
def ofDigits? : List UInt8 → Option Plmn
  | [a, b, c, d, e] => some ⟨⟨a, b, c⟩, ⟨d, e, 0⟩, 2⟩
  | [a, b, c, d, e, f] => some ⟨⟨a, b, c⟩, ⟨d, e, f⟩, 3⟩
  | _ => none

def parse (text : String) : Except IdFault Plmn :=
  match (text.toList.mapM digit?).bind ofDigits? with
  | some p => .ok p
  | none => .error (.plmn text)

/-- The packed form. A two-digit network code leaves the upper half of the second octet at 15. -/
def encode (p : Plmn) : Octets where
  first := p.mcc.second <<< 4 ||| p.mcc.first
  second := (if p.mncLength = 2 then (0xF0 : UInt8) else p.mnc.third <<< 4) ||| p.mcc.third
  third := p.mnc.second <<< 4 ||| p.mnc.first

def u24 (p : Plmn) : UInt32 := p.encode.u24

def text (p : Plmn) : String :=
  String.join (p.mcc.toList.map fun d => toString d.toNat) ++ "-" ++
    String.join ((p.mnc.toList.take p.mncLength.toNat).map fun d => toString d.toNat)

end Plmn

end E2Node
