import E2Node.E2ap.Failure
import E2Node.E2ap.Message

namespace E2Node

inductive IndicationFault
  | functionOutOfRange (id : RanFunctionId)
  | emptyHeader
  | emptyMessage
  deriving DecidableEq

def IndicationFault.message : IndicationFault → String
  | .functionOutOfRange id => s!"RAN function id {id.text} out of range"
  | .emptyHeader => "indication header is empty"
  | .emptyMessage => "indication message is empty"

def Indication.fault? (i : Indication) : Option IndicationFault :=
  if RanFunctionId.max < i.function.val then some (.functionOutOfRange i.function)
  else if i.header.isEmpty then some .emptyHeader
  else if i.message.isEmpty then some .emptyMessage
  else none

def Indication.checked (i : Indication) : Except RequestError Indication :=
  match i.fault? with
  | some f => .error (.invalid f.message)
  | none => .ok i

end E2Node
