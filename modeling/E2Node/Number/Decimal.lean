import E2Node.Number.Numeral
import E2Node.Number.Round

namespace E2Node

structure Decimal where
  digits : Nat
  exponent : Int
  deriving DecidableEq

namespace Decimal

def width (n : Nat) : Nat := if n = 0 then 0 else (Nat.toDigits 10 n).length

/-- Above this power of ten every number is infinite, and below its inverse every number is zero. -/
def reach : Int := 400

def magnitude (d : Decimal) : Nat :=
  let top := d.exponent + width d.digits
  if d.digits = 0 ∨ top < -reach then 0
  else if reach < top then Binary64.infinityMagnitude
  else if 0 ≤ d.exponent then Binary64.roundQuotient (d.digits * Nat.pow 10 d.exponent.toNat) 1
  else Binary64.roundQuotient d.digits (Nat.pow 10 (-d.exponent).toNat)

def ofNumeral (n : Numeral) : Decimal :=
  ⟨Numeral.readDigits (Numeral.readDigits 0 n.whole) n.fraction,
    n.exponentValue - n.fraction.length⟩

end Decimal

def Binary64.ofNumeral (n : Numeral) : Binary64 :=
  .ofMagnitude n.negative (Decimal.ofNumeral n).magnitude

end E2Node
