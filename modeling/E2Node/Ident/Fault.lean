namespace E2Node

inductive IdFault
  | plmn (text : String)
  | outOfRange (name : String) (value max : Nat)
  deriving DecidableEq

def IdFault.message : IdFault → String
  | .plmn text => s!"Invalid PLMN: {text}"
  | .outOfRange name value max => s!"{name} value {value} out of range (max {max})"

end E2Node
