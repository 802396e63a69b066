namespace E2Node

structure Imsi where
  val : UInt64
  deriving DecidableEq

def Imsi.text (i : Imsi) : String := toString i.val.toNat

def Imsi.min : Imsi := ⟨1000000⟩

def Imsi.max : Imsi := ⟨9999999⟩

def Imsi.InBand (i : Imsi) : Prop := Imsi.min.val ≤ i.val ∧ i.val ≤ Imsi.max.val

instance (i : Imsi) : Decidable i.InBand := by unfold Imsi.InBand; infer_instance

structure Crnti where
  val : UInt32
  deriving DecidableEq

def Crnti.first : Crnti := ⟨90125⟩

def Crnti.place (c : Crnti) : Nat := (c.val - Crnti.first.val).toNat

def Crnti.next (c : Crnti) : Crnti := ⟨c.val + 1⟩

end E2Node
