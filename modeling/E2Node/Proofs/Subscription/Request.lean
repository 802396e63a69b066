import E2Node.Subscription.Request
import Mathlib.Data.List.Nodup
import Mathlib.Tactic.Tauto

namespace E2Node

section

variable {α : Type} [DecidableEq α] {seen as : List α} {a : α}

theorem firstRepeat_eq_none_iff : firstRepeat seen as = none ↔ as.Nodup ∧ as.Disjoint seen := by
  induction as generalizing seen with
  | nil => simp [firstRepeat]
  | cons b bs ih =>
      rw [firstRepeat, List.nodup_cons, List.disjoint_cons_left]
      by_cases hb : b ∈ seen
      · simp [hb]
      · rw [if_neg hb, ih, List.disjoint_cons_right]
        tauto

theorem firstRepeat_eq_some_iff : firstRepeat seen as = some a ↔
    ∃ pre post, as = pre ++ a :: post ∧ pre.Nodup ∧ pre.Disjoint seen ∧ (a ∈ pre ∨ a ∈ seen) := by
  induction as generalizing seen with
  | nil => simp [firstRepeat]
  | cons b bs ih =>
      rw [firstRepeat]
      by_cases hb : b ∈ seen
      · rw [if_pos hb, Option.some.injEq]
        constructor
        · rintro rfl
          exact ⟨[], bs, rfl, List.nodup_nil, List.disjoint_nil_left _, .inr hb⟩
        · rintro ⟨pre, post, he, -, hd, -⟩
          cases pre with
          | nil => exact (List.cons.inj he).1
          | cons c cs =>
              obtain rfl := (List.cons.inj he).1
              exact absurd hb (List.disjoint_cons_left.1 hd).1
      · rw [if_neg hb, ih]
        constructor
        · rintro ⟨pre, post, rfl, hn, hd, ha⟩
          obtain ⟨hp, hd⟩ := List.disjoint_cons_right.1 hd
          refine ⟨b :: pre, post, rfl, List.nodup_cons.2 ⟨hp, hn⟩,
            List.disjoint_cons_left.2 ⟨hb, hd⟩, ?_⟩
          rw [List.mem_cons] at ha ⊢
          tauto
        · rintro ⟨pre, post, he, hn, hd, ha⟩
          cases pre with
          | nil =>
              obtain rfl := (List.cons.inj he).1
              simp [hb] at ha
          | cons c cs =>
              obtain ⟨rfl, rfl⟩ := List.cons.inj he
              obtain ⟨hc, hn⟩ := List.nodup_cons.1 hn
              refine ⟨cs, post, rfl, hn,
                List.disjoint_cons_right.2 ⟨hc, (List.disjoint_cons_left.1 hd).2⟩, ?_⟩
              rw [List.mem_cons] at ha ⊢
              tauto

end

namespace SubscriptionRequest

variable {r : SubscriptionRequest} {f : RequestFault}

structure WellFormed (r : SubscriptionRequest) : Prop where
  inRange : r.function.val.toNat ≤ 4095
  few : r.actions.length ≤ 16
  distinct : (r.actions.map RequestedAction.id).Nodup

inductive Breaks (r : SubscriptionRequest) : RequestFault → Prop
  | functionOutOfRange (hf : 4095 < r.function.val.toNat) : Breaks r (.functionOutOfRange r.function)
  | tooManyActions (hf : r.function.val.toNat ≤ 4095) (hl : 16 < r.actions.length) :
      Breaks r (.tooManyActions r.actions.length)
  | duplicateAction {pre a post} (hf : r.function.val.toNat ≤ 4095) (hl : r.actions.length ≤ 16)
      (he : r.actions.map RequestedAction.id = pre ++ a :: post) (hn : pre.Nodup) (ha : a ∈ pre) :
      Breaks r (.duplicateAction a)

theorem inRange_iff : ¬ RanFunctionId.max < r.function.val ↔ r.function.val.toNat ≤ 4095 := by
  rw [UInt16.lt_iff_toNat_lt, Nat.not_lt]
  rfl

theorem fault?_eq_none_iff : r.fault? = none ↔ r.WellFormed := by
  rw [fault?]
  by_cases hf : RanFunctionId.max < r.function.val
  · rw [if_pos hf]
    exact iff_of_false nofun fun h => inRange_iff.2 h.inRange hf
  rw [if_neg hf]
  by_cases hl : maxActions < r.actions.length
  · rw [if_pos hl]
    exact iff_of_false nofun fun h => Nat.not_le.2 hl h.few
  rw [if_neg hl, Option.map_eq_none_iff, firstRepeat_eq_none_iff]
  constructor
  · rintro ⟨hn, -⟩
    exact ⟨inRange_iff.1 hf, Nat.not_lt.1 hl, hn⟩
  · intro h
    exact ⟨h.distinct, List.disjoint_nil_right _⟩

theorem fault?_eq_some_iff : r.fault? = some f ↔ r.Breaks f := by
  rw [fault?]
  by_cases hf : RanFunctionId.max < r.function.val
  · have hn := mt inRange_iff.2 (not_not_intro hf)
    rw [if_pos hf, Option.some.injEq]
    constructor
    · rintro rfl
      exact .functionOutOfRange (Nat.not_le.1 hn)
    · intro h
      cases h with
      | functionOutOfRange => rfl
      | tooManyActions hr | duplicateAction hr => exact absurd hr hn
  have hr := inRange_iff.1 hf
  rw [if_neg hf]
  by_cases hl : maxActions < r.actions.length
  · rw [if_pos hl, Option.some.injEq]
    constructor
    · rintro rfl
      exact .tooManyActions hr hl
    · intro h
      cases h with
      | functionOutOfRange hn => exact absurd hr (Nat.not_le.2 hn)
      | tooManyActions => rfl
      | duplicateAction _ hn => exact absurd hn (Nat.not_le.2 hl)
  have hn := Nat.not_lt.1 hl
  rw [if_neg hl, Option.map_eq_some_iff]
  constructor
  · rintro ⟨a, ha, rfl⟩
    obtain ⟨pre, post, he, hd, -, hm⟩ := firstRepeat_eq_some_iff.1 ha
    exact .duplicateAction hr hn he hd (hm.resolve_right List.not_mem_nil)
  · intro h
    cases h with
    | functionOutOfRange h => exact absurd hr (Nat.not_le.2 h)
    | tooManyActions _ h => exact absurd hn (Nat.not_le.2 h)
    | duplicateAction _ _ he hd ha =>
        exact ⟨_, firstRepeat_eq_some_iff.2 ⟨_, _, he, hd, List.disjoint_nil_right _, .inl ha⟩, rfl⟩

end SubscriptionRequest

end E2Node
