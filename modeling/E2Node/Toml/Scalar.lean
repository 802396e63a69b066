import E2Node.Toml.Text

namespace E2Node.Toml

/-- The digits behind a first one, without underscores, each of which has a digit behind it. -/
def readMore (isDigit : Char → Bool) : List Char → Option (List Char × List Char)
  | '_' :: c :: s => if isDigit c then (readMore isDigit s).map (consText c) else none
  | ['_'] => none
  | c :: s => if isDigit c then (readMore isDigit s).map (consText c) else some ([], c :: s)
  | [] => some ([], [])

def readDigits (isDigit : Char → Bool) : List Char → Option (List Char × List Char)
  | c :: s => if isDigit c then (readMore isDigit s).map (consText c) else none
  | [] => none

def readWhole : List Char → Option (List Char × List Char)
  | '0' :: s => some (['0'], s)
  | s => readDigits Char.isDigit s

def inRange (n : Int) : Bool := Int64.minValue.toInt ≤ n && n ≤ Int64.maxValue.toInt

def integer? (n : Int) : Option Value := if inRange n then some (.integer n) else none

def readBased (base : Nat) (isDigit : Char → Bool) (s : List Char) :
    Option (Value × List Char) := do
  let (ds, s) ← readDigits isDigit s
  let v ← integer? (ds.foldl (fun n c => base * n + (hexValue? c).getD 0) (0 : Nat))
  return (v, s)

def readExponent (s : List Char) : Option (Option (Bool × List Char) × List Char) :=
  match s with
  | c :: s' =>
      if c = 'e' ∨ c = 'E' then
        let (negative, ds) := match s' with
          | '-' :: t => (true, t)
          | '+' :: t => (false, t)
          | t => (false, t)
        (readDigits Char.isDigit ds).map fun r => (some (negative, r.1), r.2)
      else some (none, s)
  | [] => some (none, [])

def real? (n : Numeral) : Option Value :=
  let x := Binary64.ofNumeral n
  if x = .infinity false then none else some (.real x)

def readDecimal (negative : Bool) (s : List Char) : Option (Value × List Char) := do
  let (whole, s) ← readWhole s
  let (fraction, s) ← match s with
    | '.' :: s => readDigits Char.isDigit s
    | s => some ([], s)
  let (exponent, s) ← readExponent s
  let n : Numeral := ⟨negative, whole, fraction, exponent⟩
  let v := (Numeral.readDigits 0 whole : Int)
  let value ← if n.isWhole then integer? (if negative then -v else v) else real? n
  return (value, s)

def readSigned (negative : Bool) : List Char → Option (Value × List Char)
  | 'i' :: 'n' :: 'f' :: s => some (.real (.infinity negative), s)
  | 'n' :: 'a' :: 'n' :: s => some (.real .nan, s)
  | s => readDecimal negative s

def readNumber : List Char → Option (Value × List Char)
  | '0' :: 'x' :: s => readBased 16 (fun c => (hexValue? c).isSome) s
  | '0' :: 'o' :: s => readBased 8 (fun c => '0' ≤ c && c ≤ '7') s
  | '0' :: 'b' :: s => readBased 2 (fun c => c = '0' || c = '1') s
  | '-' :: s => readSigned true s
  | '+' :: s => readSigned false s
  | s => readSigned false s

def readPair (low high : Nat) : List Char → Option (Nat × List Char)
  | a :: b :: s =>
      let n := Numeral.readDigits 0 [a, b]
      if a.isDigit && b.isDigit && low ≤ n && n ≤ high then some (n, s) else none
  | _ => none

def isLeap (year : Nat) : Bool := year % 4 = 0 && (year % 100 ≠ 0 || year % 400 = 0)

def monthLength (year month : Nat) : Nat :=
  if month = 2 then if isLeap year then 29 else 28
  else if month ∈ [4, 6, 9, 11] then 30
  else 31

def afterDate? (s : List Char) : Option (List Char) := do
  let (century, s) ← readPair 0 99 s
  let (year, s) ← readPair 0 99 s
  let (month, s) ← match s with
    | '-' :: s => readPair 1 12 s
    | _ => none
  let (_, s) ← match s with
    | '-' :: s => readPair 1 (monthLength (100 * century + year) month) s
    | _ => none
  return s

def afterTime? (s : List Char) : Option (List Char) := do
  let (_, s) ← readPair 0 23 s
  let (_, s) ← match s with
    | ':' :: s => readPair 0 59 s
    | _ => none
  let (_, s) ← match s with
    | ':' :: s => readPair 0 60 s
    | _ => none
  match s with
  | '.' :: c :: t => return if c.isDigit then t.dropWhile Char.isDigit else s
  | _ => return s

def afterOffset (s : List Char) : List Char :=
  let signed (t : List Char) : List Char :=
    match readPair 0 23 t with
    | some (_, ':' :: u) => ((readPair 0 59 u).map Prod.snd).getD s
    | _ => s
  match s with
  | 'Z' :: t | 'z' :: t => t
  | '+' :: t | '-' :: t => signed t
  | _ => s

def afterTimeOfDate (s : List Char) : List Char :=
  match s with
  | c :: t =>
      if c = 'T' ∨ c = 't' ∨ c = ' ' then ((afterTime? t).map afterOffset).getD s else s
  | [] => []

def afterMoment? (s : List Char) : Option (List Char) :=
  match afterDate? s with
  | some s => some (afterTimeOfDate s)
  | none => afterTime? s

end E2Node.Toml
