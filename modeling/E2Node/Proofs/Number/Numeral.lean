import E2Node.Number.Shortest
import Mathlib.Data.List.Basic

namespace E2Node

namespace Numeral

def IsDigits (s : List Char) : Prop := s ≠ [] ∧ ∀ c ∈ s, c.isDigit = true

structure WellFormed (n : Numeral) : Prop where
  whole : IsDigits n.whole
  leading : n.whole.head? = some '0' → n.whole = ['0']
  fraction : ∀ c ∈ n.fraction, c.isDigit = true
  exponent : ∀ e, n.exponent = some e → IsDigits e.2

theorem IsDigits.append {s t : List Char} (hs : IsDigits s) (ht : ∀ c ∈ t, c.isDigit = true) :
    IsDigits (s ++ t) :=
  ⟨List.append_ne_nil_of_left_ne_nil hs.1 t,
    fun c hc => (List.mem_append.1 hc).elim (hs.2 c) (ht c)⟩

theorem IsDigits.take {s : List Char} (hs : IsDigits s) {n : Nat} (hn : 0 < n) :
    IsDigits (s.take n) := by
  refine ⟨fun h => ?_, fun c hc => hs.2 c (List.mem_of_mem_take hc)⟩
  obtain hn' | hs' := List.take_eq_nil_iff.1 h
  · omega
  · exact hs.1 hs'

theorem isDigit_of_mem_zeros (n : Nat) : ∀ c ∈ List.replicate n '0', c.isDigit = true := by
  intro c hc
  rw [List.eq_of_mem_replicate hc]
  rfl

theorem isDigits_digitsOf (n : Nat) : IsDigits (digitsOf n) :=
  ⟨Nat.toDigits_ne_nil, fun _ h => Nat.isDigit_of_mem_toDigits (by decide) (by decide) h⟩

theorem readDigits_digitsOf (n : Nat) : readDigits 0 (digitsOf n) = n :=
  Nat.ofDigitChars_eq_foldl.symm.trans Nat.ofDigitChars_ten_toDigits

theorem eq_zero_of_head?_digitsOf {n : Nat} (h : (digitsOf n).head? = some '0') : n = 0 := by
  induction n using Nat.strongRecOn with
  | _ n ih =>
      rw [digitsOf, Nat.toDigits_eq_if (by decide)] at h
      split at h
      · simpa using h
      · obtain ⟨c, cs, hc⟩ := List.exists_cons_of_ne_nil (@Nat.toDigits_ne_nil (n / 10) 10)
        rw [hc, List.cons_append, List.head?_cons] at h
        have := ih (n / 10) (by omega) (by rw [digitsOf, hc, List.head?_cons, h])
        omega

theorem wellFormed_ofInt (n : Int) : (ofInt n).WellFormed where
  whole := isDigits_digitsOf _
  leading h := by
    rw [ofInt] at h ⊢
    rw [eq_zero_of_head?_digitsOf h]
    rfl
  fraction := nofun
  exponent := nofun

end Numeral

theorem Binary64.scale_pos : 0 < scale := by
  unfold scale
  generalize 1074 = n
  exact Nat.pow_pos Nat.two_pos

namespace Shortest

open Numeral

/-- A decimal that is not written with more than one zero in front of the point. -/
def Proper (d : Decimal) : Prop := d.digits ≠ 0 ∨ d.exponent ≤ 0

theorem wellFormed_layout {d : Decimal} (hd : Proper d) (negative : Bool) :
    (layout negative d).WellFormed := by
  have h := isDigits_digitsOf d.digits
  have hzero (hh : (digitsOf d.digits).head? = some '0') : digitsOf d.digits = ['0'] := by
    rw [eq_zero_of_head?_digitsOf hh]
    rfl
  have htake {n : Nat} (hn : 0 < n) (hh : ((digitsOf d.digits).take n).head? = some '0') :
      (digitsOf d.digits).take n = ['0'] := by
    rw [List.head?_take, if_neg (by omega)] at hh
    rw [hzero hh, List.take_of_length_le hn]
  simp only [layout]
  split
  · rename_i hpoint
    refine ⟨h.append (isDigit_of_mem_zeros _), fun hh => ?_, isDigit_of_mem_zeros 1, nofun⟩
    rw [List.head?_append_of_ne_nil _ h.1] at hh
    have hexponent : d.exponent = 0 := by
      have := hd.resolve_left (not_not_intro (eq_zero_of_head?_digitsOf hh))
      omega
    rw [hzero hh, hexponent]
    rfl
  split
  · exact ⟨h.take (by omega), htake (by omega), fun c hc => h.2 c (List.mem_of_mem_drop hc), nofun⟩
  split
  · refine ⟨isDigits_digitsOf 0, fun _ => rfl, fun c hc => ?_, nofun⟩
    exact (List.mem_append.1 hc).elim (isDigit_of_mem_zeros _ c) (h.2 c)
  · refine ⟨h.take Nat.one_pos, htake Nat.one_pos, fun c hc => h.2 c (List.mem_of_mem_drop hc), ?_⟩
    rintro e ⟨⟩
    exact isDigits_digitsOf _

theorem digits_ne_zero {d : Decimal} (h : d.magnitude ≠ 0) : d.digits ≠ 0 := by
  intro hd
  rw [Decimal.magnitude, if_pos (.inl hd)] at h
  exact h rfl

def below (m : Nat) (k : Int) : Bool :=
  if 0 ≤ k then Binary64.units m < Nat.pow 10 k.toNat * Binary64.scale
  else Binary64.units m * Nat.pow 10 (-k).toNat < Binary64.scale

theorem decade_succ (m n : Nat) (k : Int) :
    decade m (n + 1) k = if below m k then k else decade m n (k + 1) := by
  rw [decade, below]
  congr 1
  split <;> simp

theorem not_below_iff {m : Nat} {k : Int} (hk : 0 ≤ k) :
    below m k = false ↔ Nat.pow 10 k.toNat * Binary64.scale ≤ Binary64.units m := by
  rw [below, if_pos hk, decide_eq_false_iff_not, Nat.not_lt]

theorem decade_spec (m n : Nat) (k : Int) :
    decade m n k = k ∨ below m (decade m n k - 1) = false := by
  induction n generalizing k with
  | zero => exact .inl rfl
  | succ n ih =>
      rw [decade_succ]
      cases hk : below m k with
      | true => exact .inl rfl
      | false =>
          refine .inr ?_
          obtain he | he := ih (k + 1)
          · rwa [if_neg nofun, he, Int.add_sub_cancel]
          · exact he

theorem proper_of_onGrid? {m : Nat} {k : Int} {d : Decimal} (hm : m ≠ 0)
    (h : onGrid? m k = some d) : Proper d := by
  have hd : d.magnitude = m := by
    rw [onGrid?] at h
    have := List.find?_some h
    exact of_decide_eq_true this
  exact .inl (digits_ne_zero (hd ▸ hm))

theorem proper_search {m : Nat} (hm : m ≠ 0) (n : Nat) (k : Int)
    (h : 0 < k - n → below m (k - n) = false) : Proper (search m n k) := by
  induction n generalizing k with
  | zero =>
      rw [search]
      by_cases hk : k ≤ 0
      · exact .inr hk
      · have hle := (not_below_iff (by omega)).1 (h (by omega))
        have hpos : 0 < Nat.pow 10 k.toNat * Binary64.scale :=
          Nat.mul_pos (Nat.pow_pos (by decide)) Binary64.scale_pos
        rw [Int.natCast_zero, Int.sub_zero] at hle
        refine .inl (Nat.ne_of_gt ?_)
        rw [inUnits, powerOfTen, if_pos (by omega), Nat.mul_one, Nat.mul_comm]
        exact Nat.div_pos hle hpos
  | succ n ih =>
      rw [search]
      split
      · exact proper_of_onGrid? hm ‹_›
      · refine ih (k - 1) ?_
        have : k - 1 - (n : Int) = k - (n + 1 : Nat) := by omega
        rwa [this]

theorem proper_trim (n : Nat) {d : Decimal} (hd : Proper d) : Proper (trim n d) := by
  induction n generalizing d with
  | zero => exact hd
  | succ n ih =>
      rw [trim]
      split
      · exact ih (.inl (by dsimp only; omega))
      · exact hd

theorem proper_ofMagnitude (m : Nat) : Proper (ofMagnitude m) := by
  rw [ofMagnitude]
  split
  · exact .inr (Int.le_refl 0)
  · rename_i hm
    refine proper_trim 17 (proper_search hm 17 _ fun hpos => ?_)
    obtain he | he := decade_spec m 640 (-324)
    · omega
    · rw [not_below_iff (by omega)] at he ⊢
      exact Nat.le_trans (Nat.mul_le_mul_right _ (Nat.pow_le_pow_right (by decide) (by omega))) he

end Shortest

theorem Binary64.wellFormed_numeral (x : Binary64) : x.numeral.WellFormed :=
  Shortest.wellFormed_layout (Shortest.proper_ofMagnitude _) _

end E2Node
