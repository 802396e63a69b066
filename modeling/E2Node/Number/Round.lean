import E2Node.Number.Binary64

namespace E2Node.Binary64

def scale : Nat := Nat.pow 2 1074

def units (m : Nat) : Nat :=
  if m < Nat.pow 2 53 then m
  else
    let shift := m / Nat.pow 2 52 - 1
    (m - shift * Nat.pow 2 52) * Nat.pow 2 shift

/-- The nearest whole number to a quotient, the even one of two. -/
def nearestEven (num den : Nat) : Nat :=
  let q := num / den
  let twice := 2 * (num % den)
  if twice < den then q
  else if den < twice then q + 1
  else q + q % 2

def roundUnits (num den : Nat) : Nat :=
  let shift := Nat.log2 (num / den) - 52
  min (shift * Nat.pow 2 52 + nearestEven num (den * Nat.pow 2 shift)) infinityMagnitude

def roundQuotient (num den : Nat) : Nat := roundUnits (num * scale) den

def ofNat (negative : Bool) (n : Nat) : Binary64 := ofMagnitude negative (roundQuotient n 1)

def ofInt (n : Int) : Binary64 := ofNat (n < 0) n.natAbs

def mulMagnitude (a b : Nat) : Nat := roundUnits (units a * units b) scale

def divMagnitude (a b : Nat) : Nat := roundUnits (units a * scale) (units b)

end E2Node.Binary64
