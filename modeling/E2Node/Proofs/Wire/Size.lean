import E2Node.Proofs.Wire.Exact

namespace E2Node.Wire.Codec

variable {α β : Type} {m n : Nat}

def AtMost (c : Codec α) (n : Nat) : Prop := ∀ a, (c.encode a).length ≤ n

theorem word_atMost (k : Nat) : (word k).AtMost k := by
  intro a
  rw [word_encode, length_leBytes]

theorem via_atMost {c : Codec β} (hc : c.AtMost n) (put : α → β) (get : β → α) :
    (c.via put get).AtMost n := fun a => hc (put a)

theorem of_atMost {c : Codec β} (hc : c.AtMost n) (p : Parts α β) : (c.of p).AtMost n :=
  via_atMost hc p.split p.join

theorem pair_atMost {a : Codec α} {b : Codec β} (ha : a.AtMost m) (hb : b.AtMost n) :
    (a.pair b).AtMost (m + n) := by
  intro p
  rw [pair_encode_length]
  exact Nat.add_le_add (ha p.1) (hb p.2)

theorem u8_atMost : u8.AtMost 1 := via_atMost (word_atMost 1) _ _

theorem u16_atMost : u16.AtMost 2 := via_atMost (word_atMost 2) _ _

theorem u32_atMost : u32.AtMost 4 := via_atMost (word_atMost 4) _ _

theorem option_atMost {c : Codec α} (hc : c.AtMost n) : (option c).AtMost (1 + n) := by
  intro o
  cases o with
  | none => exact Nat.le_trans (u8_atMost 0) (Nat.le_add_right 1 n)
  | some a =>
      rw [option_encode_some, List.length_append]
      exact Nat.add_le_add (u8_atMost 1) (hc a)

theorem oneOf_atMost [BEq α] (cases : List α) : (oneOf cases).AtMost 4 := fun a =>
  word_atMost 4 (cases.idxOf a)

theorem alternatives_encode_length [BEq α] {B : α → Type} (kinds : List α)
    (body : (k : α) → Codec (B k)) (s : Sigma B) :
    ((alternatives kinds body).encode s).length = 4 + ((body s.1).encode s.2).length := by
  rw [alternatives, List.length_append, word_encode, length_leBytes]

theorem alternatives_atMost [BEq α] {B : α → Type} (kinds : List α) {body : (k : α) → Codec (B k)}
    (hb : ∀ k, (body k).AtMost n) : (alternatives kinds body).AtMost (4 + n) := by
  intro s
  rw [alternatives_encode_length]
  exact Nat.add_le_add_left (hb s.1 s.2) 4

theorem flatMap_length_le {c : Codec α} (hc : c.AtMost n) (as : List α) :
    (as.flatMap c.encode).length ≤ as.length * n := by
  induction as with
  | nil => simp
  | cons a as ih =>
      have ha := hc a
      rw [List.flatMap_cons, List.length_append, List.length_cons, Nat.succ_mul]
      omega

theorem list_encode_length_le {c : Codec α} (hc : c.AtMost n) {as : List α} (h : as.length ≤ m) :
    ((list c).encode as).length ≤ 8 + m * n := by
  rw [list_encode_length]
  exact Nat.add_le_add_left (Nat.le_trans (flatMap_length_le hc as) (Nat.mul_le_mul_right n h)) 8

end E2Node.Wire.Codec
