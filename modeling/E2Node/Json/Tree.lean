import E2Node.Number.Shortest

namespace E2Node.Json

inductive Tree
  | null
  | flag (b : Bool)
  | number (n : Numeral)
  | text (s : Option (List Char))
  | list (items : List Tree)
  | record (entries : List (Option (List Char) × Tree))

def quote : Char := '"'

def escape (c : Char) : List Char :=
  if c = '"' then ['\\', '"']
  else if c = '\\' then ['\\', '\\']
  else if c = '\x08' then ['\\', 'b']
  else if c = '\x0c' then ['\\', 'f']
  else if c = '\n' then ['\\', 'n']
  else if c = '\r' then ['\\', 'r']
  else if c = '\t' then ['\\', 't']
  else if c.toNat < 32 then
    ['\\', 'u', '0', '0', Nat.digitChar (c.toNat / 16), Nat.digitChar (c.toNat % 16)]
  else [c]

def renderText (s : List Char) : List Char := quote :: s.flatMap escape ++ [quote]

mutual

def Tree.render : Tree → List Char
  | .null => ['n', 'u', 'l', 'l']
  | .flag true => ['t', 'r', 'u', 'e']
  | .flag false => ['f', 'a', 'l', 's', 'e']
  | .number n => n.render
  | .text s => renderText (s.getD [])
  | .list items => '[' :: renderItems items ++ [']']
  | .record entries => '\x7b' :: renderEntries entries ++ ['\x7d']

def renderItems : List Tree → List Char
  | [] => []
  | [t] => t.render
  | t :: u :: ts => t.render ++ ',' :: renderItems (u :: ts)

def renderEntries : List (Option (List Char) × Tree) → List Char
  | [] => []
  | [(k, t)] => renderText (k.getD []) ++ ':' :: t.render
  | (k, t) :: e :: es => renderText (k.getD []) ++ ':' :: t.render ++ ',' :: renderEntries (e :: es)

end

end E2Node.Json
