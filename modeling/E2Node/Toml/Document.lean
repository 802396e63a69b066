import E2Node.Config.Reading
import E2Node.Toml.Scalar

namespace E2Node.Toml

def skipFiller : Bool → List Char → List Char
  | _, '\n' :: s => skipFiller false s
  | _, '\r' :: '\n' :: s => skipFiller false s
  | true, c :: s => if isVisible c then skipFiller true s else c :: s
  | false, c :: s =>
      if c = '#' then skipFiller true s else if isBlank c then skipFiller false s else c :: s
  | _, [] => []

def readSimple : List Char → Option (Value × List Char)
  | 't' :: 'r' :: 'u' :: 'e' :: s => some (.flag true, s)
  | 'f' :: 'a' :: 'l' :: 's' :: 'e' :: s => some (.flag false, s)
  | s =>
      match readText s, afterMoment? s with
      | some (t, s), _ => some (.text t, s)
      | none, some s => some (.moment, s)
      | none, none => readNumber s

def readItems (read : List Char → Option (Value × List Char)) :
    Nat → List Char → Option (List Value × List Char)
  | 0, _ => none
  | n + 1, s =>
      match skipFiller false s with
      | ']' :: s => some ([], s)
      | s =>
          match read s with
          | none => none
          | some (v, s) =>
              match skipFiller false s with
              | ']' :: s => some ([v], s)
              | ',' :: s => (readItems read n s).map fun r => (v :: r.1, r.2)
              | _ => none

def readEntry (read : List Char → Option (Value × List Char)) (s : List Char) :
    Option ((List Key × Value) × List Char) :=
  match readKey s with
  | some (path, '=' :: s) =>
      (read (skipBlanks s)).map fun r => ((path, r.1), skipBlanks r.2)
  | _ => none

def readEntries (read : List Char → Option (Value × List Char)) :
    Nat → List Char → Option (List (List Key × Value) × List Char)
  | 0, _ => none
  | n + 1, s =>
      match readEntry read s with
      | some (e, '\x7d' :: s) => some ([e], s)
      | some (e, ',' :: s) => (readEntries read n s).map fun r => (e :: r.1, r.2)
      | _ => none

def readInline (read : List Char → Option (Value × List Char)) (s : List Char) :
    Option (Value × List Char) :=
  match skipBlanks s with
  | '\x7d' :: s => some (.table .inline [], s)
  | s =>
      match readEntries read (s.length + 1) s with
      | some (body, s) => (Entries.insertAll body []).map fun es => (.table .inline es, s)
      | none => none

def readValue : Nat → List Char → Option (Value × List Char)
  | 0, '[' :: _ => none
  | 0, '\x7b' :: _ => none
  | n + 1, '[' :: s => (readItems (readValue n) (s.length + 1) s).map fun r => (.list r.1, r.2)
  | n + 1, '\x7b' :: s => readInline (readValue n) s
  | _, s => readSimple s

def afterLine? (s : List Char) : Option (List Char) :=
  let rest := match skipBlanks s with
    | '#' :: s => s.dropWhile isVisible
    | s => s
  if rest.isEmpty then some [] else afterNewline? rest

inductive Line
  | blank
  | entry (path : List Key) (v : Value)
  | header (path : List Key)
  | item (path : List Key)

def readHeader : List Char → Option (Line × List Char)
  | '[' :: s =>
      match readKey s with
      | some (path, ']' :: ']' :: s) => some (.item path, s)
      | _ => none
  | s =>
      match readKey s with
      | some (path, ']' :: s) => some (.header path, s)
      | _ => none

def readLine (s : List Char) : Option (Line × List Char) :=
  match skipBlanks s with
  | [] | '#' :: _ | '\n' :: _ | '\r' :: _ => some (.blank, s)
  | '[' :: s => readHeader s
  | s => (readEntry (readValue depthLimit) s).map fun r => (.entry r.1.1 r.1.2, r.2)

def readLines : Nat → List Char → Option (List Line)
  | 0, _ => none
  | n + 1, s =>
      if s.isEmpty then some []
      else
        match readLine s with
        | none => none
        | some (line, s) => (afterLine? s).bind fun s => (readLines n s).map (line :: ·)

def body (lines : List Line) : List (List Key × Value) :=
  (lines.takeWhile fun l => !(l matches .header _ | .item _)).filterMap fun
    | .entry path v => some (path, v)
    | _ => none

def gather : List Line → Entries → Option Entries
  | [], root => some root
  | .header path :: lines, root =>
      (Entries.place (Entries.define (body lines)) path root).bind (gather lines)
  | .item path :: lines, root =>
      (Entries.place (Entries.append (body lines)) path root).bind (gather lines)
  | _ :: lines, root => gather lines root

def dropMark : List Char → List Char
  | '\ufeff' :: s => s
  | s => s

def parse (s : List Char) : Option Value := do
  let s := dropMark s
  let lines ← readLines (s.length + 1) s
  let root ← Entries.insertAll (body lines) []
  let entries ← gather lines root
  return .table .header entries

def namedEntry (e : Key × Value) : String × Value := (String.ofList e.1, e.2)

def dialect : Dialect Value where
  text
    | .text s => some (String.ofList s)
    | _ => none
  natural
    | .integer n => n.toNat?
    | _ => none
  integer
    | .integer n => some n
    | _ => none
  real
    | .integer n => some (.ofInt n)
    | .real x => some x
    | _ => none
  items
    | .list vs => some vs
    | .tables earlier last => some ((earlier ++ [last]).map (.table .header))
    | _ => none
  fields names
    | .table _ es => pickFields names (es.map namedEntry)
    | .list vs => some (alignFields names vs)
    | .tables earlier last =>
        some (alignFields names ((earlier ++ [last]).map (.table .header)))
    | .moment => some (names.map fun _ => none)
    | _ => none
  isAbsent _ := false

end E2Node.Toml
