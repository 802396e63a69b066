import E2Node.Ident.Ue
import E2Node.Radio.Registry

namespace E2Node

structure Draw where
  imsi : Imsi
  strength : Binary64
  inBand : imsi.InBand

def Imsi.ofPlace (n : Nat) : Imsi := ⟨UInt64.ofNat (1000000 + n % 9000000)⟩

theorem Imsi.toNat_ofPlace (n : Nat) : (Imsi.ofPlace n).val.toNat = 1000000 + n % 9000000 := by
  have h : n % 9000000 < 9000000 := Nat.mod_lt _ (by decide)
  rw [Imsi.ofPlace, UInt64.toNat_ofNat']
  exact Nat.mod_eq_of_lt (by omega)

theorem Imsi.inBand_ofPlace (n : Nat) : (Imsi.ofPlace n).InBand := by
  have h : n % 9000000 < 9000000 := Nat.mod_lt _ (by decide)
  refine ⟨UInt64.le_iff_toNat_le.2 ?_, UInt64.le_iff_toNat_le.2 ?_⟩ <;> rw [toNat_ofPlace] <;>
    simp only [Imsi.min, Imsi.max, UInt64.reduceToNat] <;> omega

/-- The candidates of one sequence, which goes through the whole band in wide strides. Each has a
strength of its own, a little above 25. -/
def Draw.numbered (n : Nat) : Draw :=
  ⟨.ofPlace (4567891 + 7654321 * n), ⟨0x4039000000000001 + 2 * UInt64.ofNat n⟩,
    Imsi.inBand_ofPlace _⟩

def Draw.row (first count : Nat) : List Draw :=
  (List.range count).map fun i => .numbered (first + i)

structure Shuffle where
  apply : List Imsi → List Imsi
  perm : ∀ l, (apply l).Perm l

def Shuffle.none : Shuffle := ⟨id, fun _ => .refl _⟩

/-- Supplies cells for new members, over a state of its own. -/
structure CellSource (σ : Type) where
  pick : σ → Except RegistryError Cell × σ
  contains : σ → Ecgi → Bool

namespace CellSource

variable {σ : Type}

def gather (src : CellSource σ) : Nat → σ → Except RegistryError (List Cell) × σ
  | 0, s => (.ok [], s)
  | n + 1, s =>
      match src.pick s with
      | (.error e, s) => (.error e, s)
      | (.ok c, s) =>
          match gather src n s with
          | (.error e, s) => (.error e, s)
          | (.ok cs, s) => (.ok (c :: cs), s)

end CellSource

structure Rotation where
  cells : CellRegistry
  asked : Nat

def CellSource.rotation : CellSource Rotation where
  pick s := (s.cells.pick s.asked, { s with asked := s.asked + 1 })
  contains s := s.cells.contains

end E2Node
