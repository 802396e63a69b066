namespace E2Node.Yaml

def isBlank (c : Char) : Bool := c = ' ' || c = '\t'

def isBreak (c : Char) : Bool :=
  c = '\n' || c = '\r' || c = '\u0085' || c = '\u2028' || c = '\u2029'

def isWord (c : Char) : Bool := c.isAlphanum || c = '_' || c = '-'

def endsLine : Option Char → Bool
  | none => true
  | some c => isBreak c

def endsWord : Option Char → Bool
  | none => true
  | some c => isBlank c || isBreak c

def isAllowed (c : Char) : Bool :=
  c = '\t' || c = '\n' || c = '\r' || ' ' ≤ c && c ≤ '~' || c = '\u0085' ||
    0xa0 ≤ c.toNat && c.toNat ≤ 0xfffd || 0x10000 ≤ c.toNat

structure Cursor where
  rest : List Char
  index : Nat
  line : Nat
  column : Nat

namespace Cursor

def start (s : List Char) : Cursor := ⟨s, 0, 0, 0⟩

def peek (c : Cursor) : Option Char := c.rest.head?

def ahead (c : Cursor) (n : Nat) : Option Char := c.rest[n]?

def skip (c : Cursor) (n : Nat) : Cursor :=
  { c with rest := c.rest.drop n, index := c.index + n, column := c.column + n }

def goTo (c : Cursor) (rest : List Char) : Cursor :=
  let n := c.rest.length - rest.length
  { c with rest := rest, index := c.index + n, column := c.column + n }

def skipWhile (c : Cursor) (p : Char → Bool) : Cursor := c.goTo (c.rest.dropWhile p)

def skipBreak (c : Cursor) : Cursor :=
  match c.rest with
  | '\r' :: '\n' :: s => ⟨s, c.index + 2, c.line + 1, 0⟩
  | _ :: s => ⟨s, c.index + 1, c.line + 1, 0⟩
  | [] => c

/-- A line end as it counts in a text: the Unicode separators are kept, all others are alike. -/
def breakText (c : Cursor) : List Char :=
  match c.peek with
  | some b => if b = '\u2028' || b = '\u2029' then [b] else ['\n']
  | none => []

def atIndicator (c : Cursor) (mark : Char) : Bool :=
  c.column = 0 && c.rest.take 3 = List.replicate 3 mark && endsWord (c.ahead 3)

def afterComment? (c : Cursor) : Option Cursor :=
  let c := c.skipWhile isBlank
  let c := if c.peek = some '#' then c.skipWhile fun ch => !isBreak ch else c
  if endsLine c.peek then some c.skipBreak else none

end Cursor

end E2Node.Yaml
