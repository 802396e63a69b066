import E2Node.Subscription.Registry

namespace E2Node.Subscriptions

variable {r r' : Subscriptions} {k k' : SubscriptionKey} {i : TickerId} {s : Subscription}

theorem owns_iff : r.owns k i = true ↔ ∃ s, r.entries.get? k = some s ∧ s.ticker = some i := by
  rw [owns]
  cases r.entries.get? k with
  | none => simp
  | some s => simp

theorem get?_empty : empty.entries.get? k = none := rfl

theorem get?_release : (r.release k i).entries.get? k' =
    if k' = k ∧ r.owns k i = true then none else r.entries.get? k' := by
  rw [release]
  by_cases h : r.owns k i = true
  · simp [h, Table.get?_erase]
  · simp [h]

theorem owns_release_of_ne {j : TickerId} (h : j ≠ i) :
    (r.release k i).owns k' j = r.owns k' j := by
  rw [Bool.eq_iff_iff, owns_iff, owns_iff, get?_release]
  by_cases hk : k' = k ∧ r.owns k i = true
  · obtain ⟨rfl, ho⟩ := hk
    obtain ⟨s, hs, hi⟩ := owns_iff.1 ho
    simp [ho, hs, hi, h.symm]
  · simp [hk]

theorem owns_insert {t : Table SubscriptionKey Subscription} :
    (Subscriptions.mk (t.insert k s)).owns k' i =
      if k' = k then decide (s.ticker = some i) else (Subscriptions.mk t).owns k' i := by
  simp only [owns, Table.get?_insert]
  by_cases h : k' = k <;> simp [h]

theorem owns_erase {t : Table SubscriptionKey Subscription} :
    (Subscriptions.mk (t.erase k)).owns k' i =
      if k' = k then false else (Subscriptions.mk t).owns k' i := by
  simp only [owns, Table.get?_erase]
  by_cases h : k' = k <;> simp [h]

theorem add_eq_ok_iff : r.add s = .ok r' ↔
    r.entries.get? s.key = none ∧ r' = ⟨r.entries.insert s.key s⟩ := by
  unfold add Table.contains
  cases h : r.entries.get? s.key with
  | none => simp [eq_comm]
  | some e => simp

theorem remove_eq_ok_iff : r.remove k = .ok (s, r') ↔
    r.entries.get? k = some s ∧ r' = ⟨r.entries.erase k⟩ := by
  rw [remove]
  cases h : r.entries.get? k with
  | none => simp
  | some e => simp [eq_comm]

theorem isEmpty_iff : r.isEmpty = true ↔ ∀ k, r.entries.get? k = none := by
  rw [isEmpty, Table.isEmpty, List.isEmpty_iff]
  refine ⟨fun h k => by rw [Table.get?, h]; rfl, fun h => ?_⟩
  cases he : r.entries.entries with
  | nil => rfl
  | cons e es =>
      have := h e.1
      simp [Table.get?, he] at this

end E2Node.Subscriptions
