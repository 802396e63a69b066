import E2Node.Toml.Value

namespace E2Node.Toml

def isBlank (c : Char) : Bool := c = ' ' || c = '\t'

def isVisible (c : Char) : Bool := c = '\t' || ' ' ≤ c && c ≠ '\x7f'

def skipBlanks (s : List Char) : List Char := s.dropWhile isBlank

def afterNewline? : List Char → Option (List Char)
  | '\n' :: s => some s
  | '\r' :: '\n' :: s => some s
  | _ => none

def hexValue? (c : Char) : Option Nat :=
  if '0' ≤ c ∧ c ≤ '9' then some (c.toNat - 48)
  else if 'a' ≤ c ∧ c ≤ 'f' then some (c.toNat - 87)
  else if 'A' ≤ c ∧ c ≤ 'F' then some (c.toNat - 55)
  else none

def readCode (width : Nat) (s : List Char) : Option (Char × List Char) :=
  match (s.take width).mapM hexValue? with
  | some ds =>
      let n := ds.foldl (fun n d => 16 * n + d) 0
      if ds.length = width ∧ n.isValidChar then some (Char.ofNat n, s.drop width) else none
  | none => none

def readEscape : List Char → Option (Char × List Char)
  | 'b' :: s => some ('\x08', s)
  | 'f' :: s => some ('\x0c', s)
  | 'n' :: s => some ('\n', s)
  | 'r' :: s => some ('\r', s)
  | 't' :: s => some ('\t', s)
  | '"' :: s => some ('"', s)
  | '\\' :: s => some ('\\', s)
  | 'u' :: s => readCode 4 s
  | 'U' :: s => readCode 8 s
  | _ => none

def consText (c : Char) (r : List Char × List Char) : List Char × List Char := (c :: r.1, r.2)

def readQuoted : Nat → List Char → Option (List Char × List Char)
  | 0, _ => none
  | n + 1, s =>
      match s with
      | '"' :: s => some ([], s)
      | '\\' :: s =>
          match readEscape s with
          | some (c, s) => (readQuoted n s).map (consText c)
          | none => none
      | c :: s => if isVisible c then (readQuoted n s).map (consText c) else none
      | [] => none

def readLiteral : List Char → Option (List Char × List Char)
  | '\'' :: s => some ([], s)
  | c :: s => if isVisible c then (readLiteral s).map (consText c) else none
  | [] => none

def skipLayout : List Char → List Char
  | '\r' :: '\n' :: s => skipLayout s
  | c :: s => if isBlank c || c = '\n' then skipLayout s else c :: s
  | [] => []

def readQuotedLines : Nat → List Char → Option (List Char × List Char)
  | 0, _ => none
  | n + 1, s =>
      match s with
      | '"' :: '"' :: '"' :: '"' :: '"' :: s => some (['"', '"'], s)
      | '"' :: '"' :: '"' :: '"' :: s => some (['"'], s)
      | '"' :: '"' :: '"' :: s => some ([], s)
      | '\\' :: s =>
          match afterNewline? (skipBlanks s) with
          | some s => readQuotedLines n (skipLayout s)
          | none =>
              match readEscape s with
              | some (c, s) => (readQuotedLines n s).map (consText c)
              | none => none
      | '\r' :: '\n' :: s => (readQuotedLines n s).map (consText '\n')
      | c :: s =>
          if isVisible c || c = '\n' then (readQuotedLines n s).map (consText c) else none
      | [] => none

def readLiteralLines : List Char → Option (List Char × List Char)
  | '\'' :: '\'' :: '\'' :: '\'' :: '\'' :: s => some (['\'', '\''], s)
  | '\'' :: '\'' :: '\'' :: '\'' :: s => some (['\''], s)
  | '\'' :: '\'' :: '\'' :: s => some ([], s)
  | '\r' :: '\n' :: s => (readLiteralLines s).map (consText '\n')
  | c :: s =>
      if isVisible c || c = '\n' then (readLiteralLines s).map (consText c) else none
  | [] => none

def openLines (s : List Char) : List Char := (afterNewline? s).getD s

def readText : List Char → Option (List Char × List Char)
  | '"' :: '"' :: '"' :: s => readQuotedLines (s.length + 1) (openLines s)
  | '"' :: s => readQuoted (s.length + 1) s
  | '\'' :: '\'' :: '\'' :: s => readLiteralLines (openLines s)
  | '\'' :: s => readLiteral s
  | _ => none

def isBare (c : Char) : Bool := c.isAlphanum || c = '-' || c = '_'

def readSimpleKey (s : List Char) : Option (Key × List Char) :=
  match s with
  | '"' :: s => readQuoted (s.length + 1) s
  | '\'' :: s => readLiteral s
  | s =>
      match s.span isBare with
      | ([], _) => none
      | r => some r

def readDotted : Nat → List Char → Option (List Key × List Char)
  | 0, _ => none
  | n + 1, s =>
      match readSimpleKey (skipBlanks s) with
      | none => none
      | some (k, s) =>
          match skipBlanks s with
          | '.' :: s => (readDotted n s).map fun r => (k :: r.1, r.2)
          | s => some ([k], s)

def depthLimit : Nat := 79

def readKey (s : List Char) : Option (List Key × List Char) := readDotted depthLimit s

end E2Node.Toml
