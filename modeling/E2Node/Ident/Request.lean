namespace E2Node

structure RanFunctionId where
  val : UInt16
  deriving DecidableEq

def RanFunctionId.max : UInt16 := 4095

def RanFunctionId.text (f : RanFunctionId) : String := toString f.val.toNat

structure ActionId where
  val : UInt8
  deriving DecidableEq

structure RequestId where
  requestor : UInt32
  instanceId : UInt32
  deriving DecidableEq

inductive ActionType
  | report
  | insert
  | policy
  deriving DecidableEq

inductive IndicationType
  | report
  | insert
  deriving DecidableEq

def ActionType.all : List ActionType := [.report, .insert, .policy]

def IndicationType.all : List IndicationType := [.report, .insert]

def numbered {α : Type} (all : List α) (n : Int) : Option α := if n < 0 then none else all[n.toNat]?

def ActionType.ofNumber? (n : Int) : Option ActionType := numbered ActionType.all n

def IndicationType.ofNumber? (n : Int) : Option IndicationType := numbered IndicationType.all n

def ActionType.number (t : ActionType) : Nat := ActionType.all.idxOf t

def IndicationType.number (t : IndicationType) : Nat := IndicationType.all.idxOf t

end E2Node
