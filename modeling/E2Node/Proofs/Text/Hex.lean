import E2Node.Text.Hex
import E2Node.Text.Split
import Mathlib.Data.List.Basic

namespace E2Node

namespace Text

variable {sep : Char} {s : List Char}

theorem split_of_notMem (h : sep ∉ s) : split sep s = [s] := by
  induction s with
  | nil => rfl
  | cons c s ih =>
      obtain ⟨hc, hs⟩ := not_or.1 (mt List.mem_cons.2 h)
      rw [split, if_neg (Ne.symm hc), ih hs]

theorem split_append_cons (h : sep ∉ s) (t : List Char) :
    split sep (s ++ sep :: t) = s :: split sep t := by
  induction s with
  | nil => rw [List.nil_append, split, if_pos rfl]
  | cons c s ih =>
      obtain ⟨hc, hs⟩ := not_or.1 (mt List.mem_cons.2 h)
      rw [List.cons_append, split, if_neg (Ne.symm hc), ih hs]

theorem split_ne_nil (sep : Char) (s : List Char) : split sep s ≠ [] := by
  cases s with
  | nil => exact List.cons_ne_nil _ _
  | cons c s =>
      rw [split]
      split
      · exact List.cons_ne_nil _ _
      · split <;> exact List.cons_ne_nil _ _

theorem intercalate_split (sep : Char) (s : List Char) : [sep].intercalate (split sep s) = s := by
  induction s with
  | nil => rfl
  | cons c s ih =>
      obtain ⟨piece, pieces, hp⟩ := List.exists_cons_of_ne_nil (split_ne_nil sep s)
      rw [split, hp]
      rw [hp] at ih
      split
      · rename_i hc
        rw [List.intercalate_cons_cons, ih, hc]
        rfl
      · rw [← ih]
        cases pieces <;> rfl

theorem append_cons_inj {s' t t' : List Char} (hs : sep ∉ s) (hs' : sep ∉ s') :
    s ++ sep :: t = s' ++ sep :: t' ↔ s = s' ∧ t = t' := by
  constructor
  · intro h
    have hsplit := congrArg (split sep) h
    rw [split_append_cons hs, split_append_cons hs'] at hsplit
    obtain ⟨rfl, ht⟩ := List.cons.inj hsplit
    exact ⟨rfl, by rw [← intercalate_split sep t, ht, intercalate_split]⟩
  · rintro ⟨rfl, rfl⟩
    rfl

end Text

namespace Hex

def lowerValue? (c : Char) : Option Nat :=
  if '0' ≤ c ∧ c ≤ '9' then some (c.toNat - 48)
  else if 'a' ≤ c ∧ c ≤ 'f' then some (c.toNat - 87)
  else none

def pair? : List Char → Option UInt8
  | [a, b] => do
      let hi ← lowerValue? a
      let lo ← lowerValue? b
      return UInt8.ofNat (16 * hi + lo)
  | _ => none

/-- The bytes of a dump, which is cut at its spaces and read in pairs of digits. -/
def undump? (text : List Char) : Option (List UInt8) :=
  if text.isEmpty then some [] else (Text.split ' ' text).mapM pair?

variable {b : UInt8} {bs cs : List UInt8} {text : List Char}

theorem lowerValue?_digit : ∀ n < 16, lowerValue? (digit n) = some n := by
  decide

theorem eq_digit_of_lowerValue? {c : Char} {n : Nat} (h : lowerValue? c = some n) :
    n < 16 ∧ digit n = c := by
  rw [lowerValue?] at h
  split at h
  · rename_i hc
    obtain ⟨h0, h9⟩ : 48 ≤ c.toNat ∧ c.toNat ≤ 57 := hc
    obtain rfl := Option.some.inj h
    rw [digit, if_pos (by omega), show 48 + (c.toNat - 48) = c.toNat by omega, Char.ofNat_toNat]
    exact ⟨by omega, rfl⟩
  · split at h
    · rename_i hc
      obtain ⟨ha, hf⟩ : 97 ≤ c.toNat ∧ c.toNat ≤ 102 := hc
      obtain rfl := Option.some.inj h
      rw [digit, if_neg (by omega), show 87 + (c.toNat - 87) = c.toNat by omega, Char.ofNat_toNat]
      exact ⟨by omega, rfl⟩
    · cases h

theorem digit_ne_space : ∀ n < 16, digit n ≠ ' ' := by
  decide

theorem space_notMem_byte (b : UInt8) : ' ' ∉ byte b := by
  have hb := b.toNat_lt
  rw [byte, List.mem_pair, not_or]
  exact ⟨(digit_ne_space _ (by omega)).symm, (digit_ne_space _ (by omega)).symm⟩

theorem pair?_eq_some_iff : pair? text = some b ↔ text = byte b := by
  constructor
  · intro h
    unfold pair? at h
    split at h
    · obtain ⟨hi, hhi, hr⟩ := Option.bind_eq_some_iff.1 h
      obtain ⟨lo, hlo, hb⟩ := Option.bind_eq_some_iff.1 hr
      obtain ⟨hhi, rfl⟩ := eq_digit_of_lowerValue? hhi
      obtain ⟨hlo, rfl⟩ := eq_digit_of_lowerValue? hlo
      obtain rfl := Option.some.inj hb
      rw [byte, UInt8.toNat_ofNat_of_lt' (show 16 * hi + lo < 256 by omega),
        show (16 * hi + lo) / 16 = hi by omega, show (16 * hi + lo) % 16 = lo by omega]
    · cases h
  · rintro rfl
    have hb := b.toNat_lt
    simp only [byte, pair?, lowerValue?_digit _ (show b.toNat / 16 < 16 by omega),
      lowerValue?_digit _ (show b.toNat % 16 < 16 by omega)]
    exact congrArg some (by rw [Nat.div_add_mod]; exact UInt8.ofNat_toNat)

theorem mapM_pair?_eq_some_iff {texts : List (List Char)} :
    texts.mapM pair? = some bs ↔ texts = bs.map byte := by
  induction texts generalizing bs with
  | nil => cases bs <;> simp
  | cons t ts ih =>
      rw [List.mapM_cons]
      cases bs <;> simp [pair?_eq_some_iff, ih, Option.bind_eq_some_iff]

theorem spaced_eq_intercalate (bs : List UInt8) : spaced bs = [' '].intercalate (bs.map byte) := by
  fun_induction spaced bs with
  | case1 => rfl
  | case2 b => simp
  | case3 b bs hne ih =>
      obtain ⟨c, cs, rfl⟩ := List.exists_cons_of_ne_nil hne
      rw [ih, List.map_cons, List.map_cons, List.map_cons, List.intercalate_cons_cons,
        List.append_assoc]
      rfl

theorem split_spaced (h : bs ≠ []) : Text.split ' ' (spaced bs) = bs.map byte := by
  fun_induction spaced bs with
  | case1 => exact absurd rfl h
  | case2 b => exact Text.split_of_notMem (space_notMem_byte b)
  | case3 b bs hne ih =>
      rw [Text.split_append_cons (space_notMem_byte b), ih hne, List.map_cons]

theorem spaced_eq_nil_iff : spaced bs = [] ↔ bs = [] := by
  fun_cases spaced bs <;> simp [byte]

theorem undump?_eq_some_iff : undump? text = some bs ↔ text = spaced bs := by
  by_cases ht : text = []
  · rw [ht, undump?, List.isEmpty_nil, if_pos rfl, Option.some_inj, eq_comm (a := ([] : List Char)),
      spaced_eq_nil_iff, eq_comm]
  · rw [undump?, if_neg (mt List.isEmpty_iff.1 ht), mapM_pair?_eq_some_iff]
    constructor
    · intro h
      rw [spaced_eq_intercalate, ← h, Text.intercalate_split]
    · rintro rfl
      exact split_spaced (mt spaced_eq_nil_iff.2 ht)

theorem spaced_inj : spaced bs = spaced cs ↔ bs = cs := by
  refine ⟨fun h => ?_, congrArg spaced⟩
  have hb : undump? (spaced bs) = some bs := undump?_eq_some_iff.2 rfl
  rw [h, undump?_eq_some_iff.2 rfl] at hb
  exact (Option.some.inj hb).symm

theorem toString_toList_inj {m n : Nat} : (toString m).toList = (toString n).toList ↔ m = n := by
  refine ⟨fun h => ?_, fun h => by rw [h]⟩
  change m.repr.toList = n.repr.toList at h
  rw [Nat.toList_repr, Nat.toList_repr] at h
  rw [← Nat.ofDigitChars_ten_toDigits (n := m), h, Nat.ofDigitChars_ten_toDigits]

theorem space_notMem_toString (n : Nat) : ' ' ∉ (toString n).toList := by
  intro h
  change ' ' ∈ n.repr.toList at h
  rw [Nat.toList_repr] at h
  exact absurd (Nat.isDigit_of_mem_toDigits (by decide) (by decide) h) (by decide)

theorem summary_eq (bs : List UInt8) : summary bs = (toString bs.length).toList ++
    ' ' :: ("bytes [".toList ++ (spaced (bs.take 8) ++
      if 8 < bs.length then " ..]".toList else "]".toList)) := by
  rw [summary, List.append_assoc, List.append_assoc]
  rfl

theorem summary_eq_iff :
    summary bs = summary cs ↔ bs.length = cs.length ∧ bs.take 8 = cs.take 8 := by
  constructor
  · intro h
    rw [summary_eq, summary_eq] at h
    obtain ⟨hn, hrest⟩ := (Text.append_cons_inj (space_notMem_toString _)
      (space_notMem_toString _)).1 h
    have hl := toString_toList_inj.1 hn
    rw [hl, List.append_cancel_left_eq, List.append_cancel_right_eq, spaced_inj] at hrest
    exact ⟨hl, hrest⟩
  · rintro ⟨hl, ht⟩
    rw [summary_eq, summary_eq, hl, ht]

/-- What the texts of bytes tell: a summary the number of bytes and the first eight, and a dump all
of them. -/
theorem texts_exact :
    (∀ bs cs, summary bs = summary cs ↔ bs.length = cs.length ∧ bs.take 8 = cs.take 8) ∧
    Function.Injective spaced ∧ ∀ text bs, undump? text = some bs ↔ text = spaced bs :=
  ⟨fun _ _ => summary_eq_iff, fun _ _ => spaced_inj.1, fun _ _ => undump?_eq_some_iff⟩

example : summary [1, 2, 3, 4, 5, 6, 7, 8, 9] = "9 bytes [01 02 03 04 05 06 07 08 ..]".toList ∧
    summary [1, 2, 3, 4, 5, 6, 7, 8] = "8 bytes [01 02 03 04 05 06 07 08]".toList := by
  decide

end Hex

end E2Node
