import E2Node.Yaml.Scalar

namespace E2Node.Yaml

inductive Style
  | plain
  | quoted
  | literal
  | folded
  deriving DecidableEq

inductive Token
  | version (major minor : Nat)
  | handle (name meaning : List Char)
  | documentStart
  | documentEnd
  | blockList
  | blockRecord
  | blockEnd
  | flowListStart
  | flowListEnd
  | flowRecordStart
  | flowRecordEnd
  | entry
  | comma
  | key
  | value
  | alias (name : List Char)
  | anchor (name : List Char)
  | tag (handle suffix : List Char)
  | scalar (style : Style) (text : List Char)
  | streamEnd
  deriving DecidableEq

def endsAnchor (c : Option Char) : Bool :=
  endsWord c || c.any fun c => ['?', ':', ',', ']', '\x7d', '%', '@', Char.ofNat 96].contains c

def readAnchor (c : Cursor) : Option (List Char × Cursor) :=
  let name := c.rest.takeWhile isWord
  let d := c.skip name.length
  if name.isEmpty || !endsAnchor d.peek then none else some (name, d)

def readOctet : List Char → Option (Nat × List Char)
  | '%' :: a :: b :: s => do return (16 * (← hexValue? a) + (← hexValue? b), s)
  | _ => none

def octetCount? (lead : Nat) : Option Nat :=
  if lead < 0x80 then some 1
  else if lead < 0xc0 then none
  else if lead < 0xe0 then some 2
  else if lead < 0xf0 then some 3
  else if lead < 0xf8 then some 4
  else none

def readTrailing : Nat → List Char → Option (List Char × List Char)
  | 0, s => some ([], s)
  | n + 1, s => do
      let (o, s) ← readOctet s
      let (os, s) ← if 0x80 ≤ o ∧ o < 0xc0 then readTrailing n s else none
      return (Char.ofNat o :: os, s)

def readOctets (s : List Char) : Option (List Char × List Char) := do
  let (o, s) ← readOctet s
  let n ← octetCount? o
  let (os, s) ← readTrailing (n - 1) s
  return (Char.ofNat o :: os, s)

def isTagChar (enclosed : Bool) (c : Char) : Bool :=
  isWord c || ";/?:@&=+$.!~*'()".toList.contains c || enclosed && [',', '[', ']'].contains c

def readTagText (enclosed : Bool) : Nat → List Char → Option (List Char × List Char)
  | 0, s => some ([], s)
  | _, [] => some ([], [])
  | n + 1, c :: s =>
      if c = '%' then do
        let (os, s) ← readOctets (c :: s)
        let (text, s) ← readTagText enclosed n s
        return (os ++ text, s)
      else if isTagChar enclosed c then
        (readTagText enclosed n s).map fun r => (c :: r.1, r.2)
      else some ([], c :: s)

def readSuffix (enclosed : Bool) (s : List Char) : Option (List Char × List Char) :=
  (readTagText enclosed s.length s).filter fun r => !r.1.isEmpty

def readHandle : List Char → Option (List Char × List Char)
  | '!' :: s =>
      match s.span isWord with
      | (name, '!' :: rest) => some ('!' :: name ++ ['!'], rest)
      | (name, rest) => some ('!' :: name, rest)
  | _ => none

def readTag (s : List Char) : Option ((List Char × List Char) × List Char) :=
  match s with
  | '!' :: '<' :: s =>
      match readSuffix true s with
      | some (suffix, '>' :: s) => some (([], suffix), s)
      | _ => none
  | s => do
      let (handle, rest) ← readHandle s
      if 2 ≤ handle.length ∧ handle.getLast? = some '!' then
        let (suffix, s) ← readSuffix false rest
        return ((handle, suffix), s)
      else
        let (text, s) ← readTagText false rest.length rest
        let suffix := handle.tail ++ text
        return (if suffix.isEmpty then ([], ['!']) else (['!'], suffix), s)

def tagToken? (flow : Bool) (c : Cursor) : Option (Token × Cursor) :=
  match readTag c.rest with
  | some ((handle, suffix), rest) =>
      let d := c.goTo rest
      if endsWord d.peek || flow && d.peek = some ',' then some (.tag handle suffix, d) else none
  | none => none

def readVersionPart (s : List Char) : Option (Nat × List Char) :=
  let ds := s.takeWhile Char.isDigit
  if ds.isEmpty ∨ 9 < ds.length then none
  else some (ds.foldl (fun n d => 10 * n + (d.toNat - 48)) 0, s.drop ds.length)

def readVersion (s : List Char) : Option (Token × List Char) := do
  let (major, s) ← readVersionPart (s.dropWhile isBlank)
  match s with
  | '.' :: s =>
      let (minor, s) ← readVersionPart s
      return (.version major minor, s)
  | _ => none

def readHandleMeaning (s : List Char) : Option (Token × List Char) := do
  let (handle, s) ← readHandle (s.dropWhile isBlank)
  if handle ≠ ['!'] ∧ (handle.length < 2 ∨ handle.getLast? ≠ some '!') then none
  match s with
  | c :: _ =>
      if isBlank c then
        let (meaning, s) ← readSuffix true (s.dropWhile isBlank)
        if endsWord s.head? then return (.handle handle meaning, s) else none
      else none
  | [] => none

def directive? (c : Cursor) : Option (Token × Cursor) := do
  let name := c.rest.takeWhile isWord
  let s := c.rest.drop name.length
  if name.isEmpty ∨ !endsWord s.head? then none
  let (token, s) ←
    if name = "YAML".toList then readVersion s
    else if name = "TAG".toList then readHandleMeaning s
    else none
  let d ← (c.goTo s).afterComment?
  return (token, d)

end E2Node.Yaml
