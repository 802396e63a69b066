import E2Node.Yaml.Token

namespace E2Node.Yaml

/-- A node that may turn out to be a key. -/
structure KeyPlace where
  before : Nat
  index : Nat
  line : Nat
  column : Nat
  required : Bool

structure Lexer where
  cursor : Cursor
  tokens : List Token
  indent : Int
  outer : List Int
  keys : List (Option KeyPlace)
  keyAllowed : Bool

namespace Lexer

def start (s : List Char) : Lexer := ⟨.start s, [], -1, [], [none], true⟩

def flow (l : Lexer) : Bool := 1 < l.keys.length

def emit (l : Lexer) (t : Token) : Lexer := { l with tokens := t :: l.tokens }

def emitAt (l : Lexer) (n : Nat) (ts : List Token) : Lexer :=
  let later := l.tokens.length - n
  { l with tokens := l.tokens.take later ++ ts.reverse ++ l.tokens.drop later }

def keyReach : Nat := 1024

def isStale (c : Cursor) (k : KeyPlace) : Bool := k.line < c.line || k.index + keyReach < c.index

def dropStale (l : Lexer) : Option Lexer :=
  let stale (k : Option KeyPlace) : Bool := k.any (isStale l.cursor)
  if l.keys.any fun k => stale k && k.any (·.required) then none
  else some { l with keys := l.keys.map fun k => if stale k then none else k }

def dropKey (l : Lexer) : Option Lexer :=
  match l.keys with
  | some k :: keys => if k.required then none else some { l with keys := none :: keys }
  | _ => some l

def saveKey (l : Lexer) : Option Lexer :=
  if l.keyAllowed then
    let c := l.cursor
    let required := !l.flow && l.indent = c.column
    l.dropKey.map fun l =>
      { l with keys := some ⟨l.tokens.length, c.index, c.line, c.column, required⟩ :: l.keys.tail }
  else some l

def closeBlocks (column : Int) : List Int → Lexer → Lexer
  | [], l => l
  | o :: outer, l =>
      if l.indent ≤ column then l
      else closeBlocks column outer { l.emit .blockEnd with indent := o, outer := outer }

def unroll (l : Lexer) (column : Int) : Lexer :=
  if l.flow then l else closeBlocks column l.outer l

/-- Opens a block at a column that is further to the right, before the tokens from the `n`th on. -/
def roll (l : Lexer) (column n : Nat) (t : Token) : Lexer :=
  if !l.flow && l.indent < column then
    { l.emitAt n [t] with indent := column, outer := l.indent :: l.outer }
  else l

def skipFiller : Nat → Lexer → Lexer
  | 0, l => l
  | n + 1, l =>
      let c := l.cursor
      let c := if c.index = 0 && c.peek = some '\ufeff' then c.skip 1 else c
      let c := c.skipWhile fun ch => ch = ' ' || ch = '\t' && (l.flow || !l.keyAllowed)
      let c := if c.peek = some '#' then c.skipWhile fun ch => !isBreak ch else c
      if c.peek.any isBreak then
        skipFiller n { l with cursor := c.skipBreak, keyAllowed := l.keyAllowed || !l.flow }
      else { l with cursor := c }

def allow (l : Lexer) (allowed : Bool) : Lexer := { l with keyAllowed := allowed }

def mark (l : Lexer) (t : Token) (n : Nat) : Lexer := { l.emit t with cursor := l.cursor.skip n }

def document (l : Lexer) (t : Token) : Option Lexer :=
  (l.unroll (-1)).dropKey.map fun l => (l.mark t 3).allow false

def directive (l : Lexer) : Option Lexer := do
  let l ← (l.unroll (-1)).dropKey
  let (t, c) ← directive? (l.cursor.skip 1)
  return { l.emit t with cursor := c, keyAllowed := false }

def openFlow (l : Lexer) (t : Token) : Option Lexer :=
  l.saveKey.map fun l => { l.mark t 1 with keys := none :: l.keys, keyAllowed := true }

def closeFlow (l : Lexer) (t : Token) : Option Lexer :=
  l.dropKey.map fun l =>
    { l.mark t 1 with keys := if l.flow then l.keys.tail else l.keys, keyAllowed := false }

def comma (l : Lexer) : Option Lexer := l.dropKey.map fun l => (l.mark .comma 1).allow true

def openBlock (l : Lexer) (t : Token) : Option Lexer :=
  if l.flow then some l
  else if l.keyAllowed then some (l.roll l.cursor.column l.tokens.length t)
  else none

def entry (l : Lexer) : Option Lexer := do
  let l ← (← l.openBlock .blockList).dropKey
  return (l.mark .entry 1).allow true

def key (l : Lexer) : Option Lexer := do
  let l ← (← l.openBlock .blockRecord).dropKey
  return (l.mark .key 1).allow !l.flow

/-- The value mark: the node before it is a key, or there is an empty one. -/
def value (l : Lexer) : Option Lexer :=
  match l.keys with
  | some k :: keys =>
      let l := { l with keys := none :: keys }
      let l := (l.emitAt k.before [.key]).roll k.column k.before .blockRecord
      some ((l.mark .value 1).allow false)
  | _ => (l.openBlock .blockRecord).map fun l => (l.mark .value 1).allow !l.flow

def node (l : Lexer) (read : Cursor → Option (Token × Cursor)) : Option Lexer := do
  let l ← l.saveKey
  let (t, c) ← read l.cursor
  return { l.emit t with cursor := c, keyAllowed := false }

def block (l : Lexer) (literal : Bool) : Option Lexer := do
  let l ← l.dropKey
  let (text, c) ← readBlock literal l.indent (l.cursor.skip 1)
  return { l.emit (.scalar (if literal then .literal else .folded) text) with
    cursor := c, keyAllowed := true }

def quoted (single : Bool) (c : Cursor) : Option (Token × Cursor) :=
  (readQuoted single (c.rest.length + 1) [] (c.skip 1)).map fun r => (.scalar .quoted r.1, r.2)

def plain (l : Lexer) : Option Lexer := do
  let l ← l.saveKey
  let (text, broken, c) ←
    readPlain l.flow (l.indent + 1) (l.cursor.rest.length + 1) .empty [] l.cursor
  return { l.emit (.scalar .plain text) with cursor := c, keyAllowed := broken }

def named (make : List Char → Token) (c : Cursor) : Option (Token × Cursor) :=
  (readAnchor (c.skip 1)).map fun r => (make r.1, r.2)

def isIndicator (c : Char) : Bool := "-?:,[]\x7b\x7d#&*!|>'\"%@`".toList.contains c

def endOfText (l : Lexer) : Option Lexer :=
  (l.unroll (-1)).dropKey.map fun l => l.emit .streamEnd

def fetchAt (l : Lexer) (ch : Char) : Option Lexer :=
  let next := l.cursor.ahead 1
  if l.cursor.column = 0 && ch = '%' then l.directive
  else if l.cursor.atIndicator '-' then l.document .documentStart
  else if l.cursor.atIndicator '.' then l.document .documentEnd
  else if ch = '[' then l.openFlow .flowListStart
  else if ch = '\x7b' then l.openFlow .flowRecordStart
  else if ch = ']' then l.closeFlow .flowListEnd
  else if ch = '\x7d' then l.closeFlow .flowRecordEnd
  else if ch = ',' then l.comma
  else if ch = '-' && endsWord next then l.entry
  else if ch = '?' && (l.flow || endsWord next) then l.key
  else if ch = ':' && (l.flow || endsWord next) then l.value
  else if ch = '*' then l.node (named .alias)
  else if ch = '&' then l.node (named .anchor)
  else if ch = '!' then l.node (tagToken? l.flow)
  else if ch = '|' && !l.flow then l.block true
  else if ch = '>' && !l.flow then l.block false
  else if ch = '\'' then l.node (quoted true)
  else if ch = '"' then l.node (quoted false)
  else if !isBlank ch && !isIndicator ch || ch = '-' && !next.any isBlank ||
      !l.flow && (ch = '?' || ch = ':') then l.plain
  else none

def fetch (l : Lexer) : Option Lexer :=
  match (l.skipFiller (l.cursor.rest.length + 1)).dropStale with
  | none => none
  | some l =>
      let l := l.unroll l.cursor.column
      match l.cursor.peek with
      | none => l.endOfText
      | some ch => l.fetchAt ch

def run : Nat → Lexer → Option (List Token)
  | 0, _ => none
  | n + 1, l =>
      match l.fetch with
      | none => none
      | some l => if l.tokens.head? = some .streamEnd then some l.tokens.reverse else run n l

end Lexer

/-- The tokens of a text of allowed characters. Each is fetched from at least one character. -/
def tokens? (s : List Char) : Option (List Token) :=
  if s.all isAllowed then (Lexer.start s).run (s.length + 1) else none

end E2Node.Yaml
