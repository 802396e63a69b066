import E2Node.E2ap.Failure
import E2Node.Text.Split

namespace E2Node

inductive AddressFault
  | noPort
  | badPort
  deriving DecidableEq

def AddressFault.message : AddressFault → String
  | .noPort => "invalid socket address"
  | .badPort => "invalid port value"

namespace Address

def isPort (s : List Char) : Bool :=
  let digits := match s with
    | '+' :: rest => rest
    | s => s
  !digits.isEmpty && digits.all Char.isDigit &&
    digits.foldl (fun n c => 10 * n + (c.toNat - 48)) 0 < 65536

def fault? (address : String) : Option AddressFault :=
  match Text.splitLast? ':' address.toList with
  | none => some .noPort
  | some (_, port) => if isPort port then none else some .badPort

def error? (address : String) : Option SessionError :=
  (fault? address).map fun f => .connectionFailed s!"{address}: {f.message}"

end Address

end E2Node
