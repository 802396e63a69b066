import E2Node.Number.Decimal

namespace E2Node

namespace Shortest

def decade (m : Nat) : Nat → Int → Int
  | 0, k => k
  | n + 1, k =>
      let below := if 0 ≤ k then Binary64.units m < Nat.pow 10 k.toNat * Binary64.scale
        else Binary64.units m * Nat.pow 10 (-k).toNat < Binary64.scale
      if below then k else decade m n (k + 1)

def powerOfTen (k : Int) : Nat × Nat :=
  if 0 ≤ k then (Nat.pow 10 k.toNat, 1) else (1, Nat.pow 10 (-k).toNat)

def inUnits (m : Nat) (k : Int) : Nat × Nat :=
  let p := powerOfTen k
  (Binary64.units m * p.2, Binary64.scale * p.1)

/-- The nearer of the two neighbours with this exponent that reads back, if one does. -/
def onGrid? (m : Nat) (k : Int) : Option Decimal :=
  let v := inUnits m k
  let low : Decimal := ⟨v.1 / v.2, k⟩
  let high : Decimal := ⟨v.1 / v.2 + 1, k⟩
  let nearer := if 2 * (v.1 % v.2) ≤ v.2 then [low, high] else [high, low]
  nearer.find? fun d => d.magnitude = m

def search (m : Nat) : Nat → Int → Decimal
  | 0, k => ⟨(inUnits m k).1 / (inUnits m k).2, k⟩
  | n + 1, k =>
      match onGrid? m k with
      | some d => d
      | none => search m n (k - 1)

def trim : Nat → Decimal → Decimal
  | 0, d => d
  | n + 1, d =>
      if d.digits % 10 = 0 ∧ d.digits ≠ 0 then trim n ⟨d.digits / 10, d.exponent + 1⟩ else d

/-- The shortest decimal of a finite magnitude. Seventeen digits always read back. -/
def ofMagnitude (m : Nat) : Decimal :=
  if m = 0 then ⟨0, 0⟩
  else trim 17 (search m 17 (decade m 640 (-324) - 1))

def layout (negative : Bool) (d : Decimal) : Numeral :=
  let digits := Numeral.digitsOf d.digits
  let point := d.exponent + digits.length
  if 0 ≤ d.exponent ∧ point ≤ 16 then
    ⟨negative, digits ++ List.replicate d.exponent.toNat '0', ['0'], none⟩
  else if 0 < point ∧ point ≤ 16 then
    ⟨negative, digits.take point.toNat, digits.drop point.toNat, none⟩
  else if -5 < point ∧ point ≤ 0 then
    ⟨negative, ['0'], List.replicate (-point).toNat '0' ++ digits, none⟩
  else
    ⟨negative, digits.take 1, digits.drop 1,
      some (decide (point < 1), Numeral.digitsOf (point - 1).natAbs)⟩

end Shortest

def Binary64.numeral (x : Binary64) : Numeral :=
  Shortest.layout x.isNegative (Shortest.ofMagnitude x.magnitude)

end E2Node
