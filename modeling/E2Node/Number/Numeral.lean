namespace E2Node

structure Numeral where
  negative : Bool
  whole : List Char
  fraction : List Char
  exponent : Option (Bool × List Char)
  deriving DecidableEq

namespace Numeral

def digitsOf (n : Nat) : List Char := Nat.toDigits 10 n

def readDigits (n : Nat) (s : List Char) : Nat := s.foldl (fun n c => 10 * n + (c.toNat - 48)) n

def ofInt (n : Int) : Numeral := ⟨n < 0, digitsOf n.natAbs, [], none⟩

def exponentValue (n : Numeral) : Int :=
  match n.exponent with
  | none => 0
  | some (negative, s) => if negative then -readDigits 0 s else readDigits 0 s

def isWhole (n : Numeral) : Bool := n.fraction.isEmpty && n.exponent.isNone

def renderSign (negative : Bool) : List Char := if negative then ['-'] else []

def renderFraction : List Char → List Char
  | [] => []
  | s => '.' :: s

def renderExponent : Option (Bool × List Char) → List Char
  | none => []
  | some (negative, s) => 'e' :: renderSign negative ++ s

def render (n : Numeral) : List Char :=
  renderSign n.negative ++ n.whole ++ renderFraction n.fraction ++ renderExponent n.exponent

end Numeral

end E2Node
