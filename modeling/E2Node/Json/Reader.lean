import E2Node.Json.Tree

namespace E2Node.Json

def isBlank (c : Char) : Bool := c = ' ' || c = '\n' || c = '\t' || c = '\r'

def skipBlanks (s : List Char) : List Char := s.dropWhile isBlank

def hexValue? (c : Char) : Option Nat :=
  if '0' ≤ c ∧ c ≤ '9' then some (c.toNat - 48)
  else if 'a' ≤ c ∧ c ≤ 'f' then some (c.toNat - 87)
  else if 'A' ≤ c ∧ c ≤ 'F' then some (c.toNat - 55)
  else none

/-- A part of a text: a character, or a sixteen-bit unit given by its number. -/
inductive Piece
  | char (c : Char)
  | unit (n : Nat)

def isHigh (n : Nat) : Bool := 0xd800 ≤ n && n < 0xdc00

def isLow (n : Nat) : Bool := 0xdc00 ≤ n && n < 0xe000

def joinPieces : List Piece → Option (List Char)
  | [] => some []
  | .char c :: ps => (joinPieces ps).map (c :: ·)
  | .unit h :: .unit l :: ps =>
      if isHigh h && isLow l then
        (joinPieces ps).map (Char.ofNat (0x10000 + (h - 0xd800) * 0x400 + (l - 0xdc00)) :: ·)
      else if isHigh h || isLow h then none
      else (joinPieces (.unit l :: ps)).map (Char.ofNat h :: ·)
  | .unit n :: ps =>
      if isHigh n || isLow n then none else (joinPieces ps).map (Char.ofNat n :: ·)

def escaped? : Char → Option Char
  | '"' => some '"'
  | '\\' => some '\\'
  | '/' => some '/'
  | 'b' => some '\x08'
  | 'f' => some '\x0c'
  | 'n' => some '\n'
  | 'r' => some '\r'
  | 't' => some '\t'
  | _ => none

def readPieces : List Char → Option (List Piece × List Char)
  | [] => none
  | '"' :: s => some ([], s)
  | '\\' :: 'u' :: a :: b :: c :: d :: s =>
      match hexValue? a, hexValue? b, hexValue? c, hexValue? d with
      | some a, some b, some c, some d =>
          (readPieces s).map fun r => (.unit (((a * 16 + b) * 16 + c) * 16 + d) :: r.1, r.2)
      | _, _, _, _ => none
  | '\\' :: e :: s =>
      match escaped? e with
      | some c => (readPieces s).map fun r => (.char c :: r.1, r.2)
      | none => none
  | c :: s =>
      if c = '\\' ∨ c.toNat < 32 then none
      else (readPieces s).map fun r => (.char c :: r.1, r.2)

def readText (s : List Char) : Option (Option (List Char) × List Char) :=
  (readPieces s).map fun r => (joinPieces r.1, r.2)

def readDigits (s : List Char) : Option (List Char × List Char) :=
  match s.span Char.isDigit with
  | ([], _) => none
  | r => some r

def readWhole (s : List Char) : Option (List Char × List Char) :=
  match readDigits s with
  | some ('0' :: _ :: _, _) => none
  | r => r

def readFraction : List Char → Option (List Char × List Char)
  | '.' :: s => readDigits s
  | s => some ([], s)

def readExponent (s : List Char) : Option (Option (Bool × List Char) × List Char) :=
  match s with
  | c :: s' =>
      if c = 'e' ∨ c = 'E' then
        let (negative, digits) := match s' with
          | '-' :: t => (true, t)
          | '+' :: t => (false, t)
          | t => (false, t)
        (readDigits digits).map fun r => (some (negative, r.1), r.2)
      else some (none, s)
  | [] => some (none, [])

def readUnsigned (negative : Bool) (s : List Char) : Option (Numeral × List Char) := do
  let (whole, s) ← readWhole s
  let (fraction, s) ← readFraction s
  let (exponent, s) ← readExponent s
  return (⟨negative, whole, fraction, exponent⟩, s)

def readNumeral : List Char → Option (Numeral × List Char)
  | '-' :: s => readUnsigned true s
  | s => readUnsigned false s

def afterWord? : List Char → List Char → Option (List Char)
  | [], s => some s
  | _, [] => none
  | c :: w, d :: s => if c = d then afterWord? w s else none

mutual

def readValue : Nat → List Char → Option (Tree × List Char)
  | 0, _ => none
  | n + 1, s =>
      match skipBlanks s with
      | [] => none
      | '"' :: s => (readText s).map fun r => (.text r.1, r.2)
      | '[' :: s =>
          match skipBlanks s with
          | ']' :: s => some (.list [], s)
          | s => (readItems n s).map fun r => (.list r.1, r.2)
      | '\x7b' :: s =>
          match skipBlanks s with
          | '\x7d' :: s => some (.record [], s)
          | s => (readEntries n s).map fun r => (.record r.1, r.2)
      | 'n' :: s => (afterWord? ['u', 'l', 'l'] s).map fun s => (.null, s)
      | 't' :: s => (afterWord? ['r', 'u', 'e'] s).map fun s => (.flag true, s)
      | 'f' :: s => (afterWord? ['a', 'l', 's', 'e'] s).map fun s => (.flag false, s)
      | s => (readNumeral s).map fun r => (.number r.1, r.2)

def readItems : Nat → List Char → Option (List Tree × List Char)
  | 0, _ => none
  | n + 1, s =>
      match readValue n s with
      | none => none
      | some (t, s) =>
          match skipBlanks s with
          | ']' :: s => some ([t], s)
          | ',' :: s => (readItems n s).map fun r => (t :: r.1, r.2)
          | _ => none

def readEntries : Nat → List Char → Option (List (Option (List Char) × Tree) × List Char)
  | 0, _ => none
  | n + 1, s =>
      match skipBlanks s with
      | '"' :: s =>
          match readText s with
          | none => none
          | some (k, s) =>
              match skipBlanks s with
              | ':' :: s =>
                  match readValue n s with
                  | none => none
                  | some (t, s) =>
                      match skipBlanks s with
                      | '\x7d' :: s => some ([(k, t)], s)
                      | ',' :: s => (readEntries n s).map fun r => ((k, t) :: r.1, r.2)
                      | _ => none
              | _ => none
      | _ => none

end

/-- The tree of a text that holds one value; the length of the text bounds how deep it can be. -/
def parse (s : List Char) : Option Tree :=
  match readValue (s.length + 1) s with
  | some (t, rest) => if (skipBlanks rest).isEmpty then some t else none
  | none => none

end E2Node.Json
