import E2Node.Registry.Table
import Mathlib.Data.List.Basic

namespace E2Node

theorem pairwise_lt_mergeSort {α : Type} (key : α → UInt64) {l : List α} (h : (l.map key).Nodup) :
    (l.mergeSort fun a b => key a ≤ key b).Pairwise fun a b => key a < key b := by
  have hle : (l.mergeSort fun a b => key a ≤ key b).Pairwise fun a b => key a ≤ key b := by
    refine (List.pairwise_mergeSort (fun a b c hab hbc => ?_) (fun a b => ?_) _).imp
      of_decide_eq_true
    · rw [decide_eq_true_iff] at *
      exact UInt64.le_trans hab hbc
    · rw [Bool.or_eq_true, decide_eq_true_iff, decide_eq_true_iff]
      exact UInt64.le_total _ _
  have hne : (l.mergeSort fun a b => key a ≤ key b).Pairwise fun a b => key a ≠ key b :=
    List.pairwise_map.1 (((List.mergeSort_perm _ _).map key).nodup_iff.2 h)
  exact (hle.and hne).imp fun h => UInt64.lt_of_le_of_ne h.1 h.2

namespace Table

variable {κ υ : Type} [DecidableEq κ] {t : Table κ υ} {es : List (κ × υ)} {k : κ} {v : υ}

theorem mem_keys_iff : k ∈ t.keys ↔ (t.get? k).isSome = true := by
  rw [keys, get?, List.lookup_isSome_iff, List.mem_map]
  exact exists_congr fun e => and_congr_right fun _ => by rw [beq_iff_eq, eq_comm]

theorem get?_of_mem {e : κ × υ} (h : e ∈ t.entries) : t.get? e.1 = some e.2 := by
  obtain ⟨l₁, l₂, hl⟩ := List.append_of_mem h
  have hd := t.distinct
  rw [get?, List.lookup_eq_some_iff]
  refine ⟨l₁, l₂, hl, fun x hx => ?_⟩
  rw [hl, List.map_append, List.nodup_append] at hd
  have hne := hd.2.2 x.1 (List.mem_map_of_mem hx) e.1 (by simp)
  simpa using hne.symm

theorem mem_values_iff : v ∈ t.values ↔ ∃ k, t.get? k = some v := by
  constructor
  · intro h
    obtain ⟨e, he, rfl⟩ := List.mem_map.1 h
    exact ⟨e.1, get?_of_mem he⟩
  · rintro ⟨k, h⟩
    obtain ⟨before, after, he, -⟩ := List.lookup_eq_some_iff.1 h
    exact List.mem_map.2 ⟨(k, v), by rw [he]; simp, rfl⟩

theorem map_values_eq_keys {f : υ → κ} (h : ∀ k v, t.get? k = some v → f v = k) :
    t.values.map f = t.keys := by
  rw [values, keys, List.map_map]
  exact List.map_congr_left fun e he => h e.1 e.2 (get?_of_mem he)

theorem filterMap_keys (t : Table κ υ) : t.keys.filterMap t.get? = t.values := by
  rw [keys, values, List.filterMap_map, ← List.filterMap_eq_map]
  exact List.filterMap_congr fun e he => get?_of_mem he

theorem keys_erase (t : Table κ υ) (k : κ) : (t.erase k).keys = t.keys.filter (· ≠ k) := by
  rw [keys, keys, List.filter_map]
  rfl

theorem keys_insert (t : Table κ υ) (k : κ) (v : υ) :
    (t.insert k v).keys = k :: t.keys.filter (· ≠ k) := by
  rw [← keys_erase]
  rfl

omit [DecidableEq κ] in
theorem size_eq_length_keys (t : Table κ υ) : t.size = t.keys.length :=
  (List.length_map Prod.fst).symm

theorem filter_ne_of_notMem {l : List (κ × υ)} (h : k ∉ l.map Prod.fst) :
    l.filter (fun e => e.1 ≠ k) = l := by
  rw [List.filter_eq_self]
  intro e he
  rw [decide_eq_true_iff]
  rintro rfl
  exact h (List.mem_map_of_mem he)

theorem values_insert_of_get?_eq_none (h : t.get? k = none) (v : υ) :
    (t.insert k v).values = v :: t.values := by
  have hk : k ∉ t.keys := by
    rw [mem_keys_iff, h]
    exact nofun
  change v :: (t.entries.filter fun e => e.1 ≠ k).map Prod.snd = _
  rw [filter_ne_of_notMem hk, values]

theorem values_perm_of_get? (h : t.get? k = some v) :
    t.values.Perm (v :: (t.erase k).values) := by
  obtain ⟨l₁, l₂, hl, -⟩ := List.lookup_eq_some_iff.1 h
  have hd := t.distinct
  rw [hl, List.map_append, List.map_cons, List.nodup_append, List.nodup_cons] at hd
  have h₁ : k ∉ l₁.map Prod.fst := fun hm => hd.2.2 k hm k List.mem_cons_self rfl
  have he : (t.erase k).values = l₁.map Prod.snd ++ l₂.map Prod.snd := by
    change (t.entries.filter fun e => e.1 ≠ k).map Prod.snd = _
    rw [hl, List.filter_append, List.filter_cons_of_neg (by simp), filter_ne_of_notMem h₁,
      filter_ne_of_notMem hd.2.1.1, List.map_append]
  rw [he, values, hl, List.map_append, List.map_cons]
  exact List.perm_middle

theorem get?_foldl_insert (es : List (κ × υ)) (t : Table κ υ) (k : κ) :
    (es.foldl (fun t e => t.insert e.1 e.2) t).get? k = (es.reverse.lookup k).or (t.get? k) := by
  induction es generalizing t with
  | nil => rfl
  | cons e es ih =>
      have he : (t.insert e.1 e.2).get? k = ([e].lookup k).or (t.get? k) := by
        rw [get?_insert, List.lookup_cons]
        by_cases hk : k = e.1
        · rw [if_pos hk, beq_iff_eq.2 hk]
          rfl
        · rw [if_neg hk, beq_eq_false_iff_ne.2 hk]
          rfl
      rw [List.foldl_cons, ih, he, List.reverse_cons, List.lookup_append, Option.or_assoc]

theorem get?_ofList_eq_some_iff : (ofList es).get? k = some v ↔
    ∃ before after, es = before ++ (k, v) :: after ∧ ∀ e ∈ after, e.1 ≠ k := by
  rw [ofList, get?_foldl_insert, show (empty : Table κ υ).get? k = none from rfl, Option.or_none,
    List.lookup_eq_some_iff]
  constructor
  · rintro ⟨after, before, he, hne⟩
    refine ⟨before.reverse, after.reverse, ?_, fun e hm => ?_⟩
    · rw [← List.reverse_reverse es, he]
      simp
    · exact (bne_iff_ne.1 (hne e (List.mem_reverse.1 hm))).symm
  · rintro ⟨before, after, rfl, hne⟩
    refine ⟨after.reverse, before.reverse, by simp, fun e hm => ?_⟩
    exact bne_iff_ne.2 (hne e (List.mem_reverse.1 hm)).symm

end Table

end E2Node
