import E2Node.Text.CharClass
import E2Node.Text.Hex

namespace E2Node.Quoted

def escapeChar (c : Char) : List Char :=
  match c with
  | '"' => ['\\', '"']
  | '\\' => ['\\', '\\']
  | '\t' => ['\\', 't']
  | '\n' => ['\\', 'n']
  | '\r' => ['\\', 'r']
  | '\x00' => ['\\', '0']
  | c =>
      if CharClass.isInvisible c || CharClass.isExtending c then
        ['\\', 'u', '\x7b'] ++ Hex.ofNat c.toNat ++ ['\x7d']
      else [c]

def ofString (s : String) : String :=
  String.ofList ('"' :: s.toList.flatMap escapeChar ++ ['"'])

end E2Node.Quoted
