namespace E2Node.Hex

def digit (n : Nat) : Char :=
  if n < 10 then Char.ofNat (48 + n) else Char.ofNat (87 + n)

def byte (b : UInt8) : List Char := [digit (b.toNat / 16), digit (b.toNat % 16)]

def digits (bytes : List UInt8) : List Char := bytes.flatMap byte

def spaced : List UInt8 → List Char
  | [] => []
  | [b] => byte b
  | b :: bs => byte b ++ ' ' :: spaced bs

def preview : Nat := 8

/-- Length and first bytes of a payload; two dots stand for the bytes left out. -/
def summary (bytes : List UInt8) : List Char :=
  (toString bytes.length).toList ++ " bytes [".toList ++ spaced (bytes.take preview) ++
    (if preview < bytes.length then " ..]".toList else "]".toList)

def value? (c : Char) : Option Nat :=
  if '0' ≤ c ∧ c ≤ '9' then some (c.toNat - 48)
  else if 'a' ≤ c ∧ c ≤ 'f' then some (c.toNat - 87)
  else if 'A' ≤ c ∧ c ≤ 'F' then some (c.toNat - 55)
  else none

def bytes? : List Char → Option (List UInt8)
  | [] => some []
  | [_] => none
  | a :: b :: cs => do
      let hi ← value? a
      let lo ← value? b
      let rest ← bytes? cs
      return UInt8.ofNat (16 * hi + lo) :: rest

def ofNat (n : Nat) : List Char :=
  if n < 16 then [digit n] else ofNat (n / 16) ++ [digit (n % 16)]

end E2Node.Hex
