import E2Node.Proofs.Population.Births
import Mathlib.Data.List.Perm.Basic

namespace E2Node

theorem CellSource.length_of_gather {σ : Type} {src : CellSource σ} {n : Nat} {s : σ}
    {cells : List Cell} (h : (src.gather n s).1 = .ok cells) : cells.length = n := by
  induction n generalizing s cells with
  | zero =>
      cases h
      rfl
  | succ n ih =>
      rw [gather] at h
      split at h
      · cases h
      · rename_i s' _
        have hn (cs : List Cell) (hc : (src.gather n s').1 = .ok cs) : cs.length = n := ih hc
        split at h
        · cases h
        · rename_i hg
          cases h
          rw [List.length_cons, hn _ (by rw [hg])]

namespace Population

variable {p q : Population} {n current : Nat}

theorem keys_insertNew {d : Draw} (c : Cell) (h : p.ues.get? d.imsi = none) :
    (p.insertNew c d).ues.keys = d.imsi :: p.ues.keys := by
  have hd : d.imsi ∉ p.ues.keys := by
    rw [Table.mem_keys_iff, h]
    exact nofun
  have hk : (p.insertNew c d).ues.keys = d.imsi :: p.ues.keys.filter (· ≠ d.imsi) :=
    Table.keys_insert _ _ _
  rw [hk, List.filter_eq_self.2]
  intro i hi
  rw [decide_eq_true_iff]
  rintro rfl
  exact hd hi

theorem keys_place {cells : List Cell} {ds : List Draw} {imsis : List Imsi}
    (h : place cells ds p = some (imsis, q)) :
    q.ues.keys = imsis.reverse ++ p.ues.keys ∧ imsis.length = cells.length := by
  induction cells generalizing ds p imsis with
  | nil =>
      cases h
      exact ⟨rfl, rfl⟩
  | cons c cs ih =>
      obtain ⟨d, ds', imsis', hfree, rfl, hp⟩ := place_cons h
      obtain ⟨hk, hl⟩ := ih hp
      rw [hk, keys_insertNew c hfree]
      simp [hl]

theorem keys_shrink_perm (p : Population) (n : Nat) (order : Shuffle) :
    (p.shrink n order).ues.keys.Perm ((order.apply p.ues.keys).drop n) := by
  have hp := order.perm p.ues.keys
  have hn : (order.apply p.ues.keys).Nodup := hp.nodup_iff.2 p.ues.distinct
  refine (List.perm_ext_iff_of_nodup (p.shrink n order).ues.distinct
    (hn.sublist (List.drop_sublist n _))).2 fun i => ?_
  have hi : i ∈ p.ues.keys ↔
      i ∈ (order.apply p.ues.keys).take n ∨ i ∈ (order.apply p.ues.keys).drop n := by
    rw [← List.mem_append, List.take_append_drop, hp.mem_iff]
  rw [← List.take_append_drop n (order.apply p.ues.keys), List.nodup_append] at hn
  rw [← Table.keys, Table.mem_keys_iff, shrink, get?_discardAll]
  split
  · rename_i ht
    simp only [Option.isSome_none, Bool.false_eq_true, false_iff]
    exact fun hd => hn.2.2 i ht i hd rfl
  · rename_i ht
    rw [← Table.mem_keys_iff, hi, or_iff_right ht]

theorem size_create {σ : Type} {src : CellSource σ} {s : σ} {ds : List Draw}
    (h : (p.create src n ds s).1.map (fun r => r.map Prod.snd) = some (.ok q)) :
    q.size = p.size + n := by
  obtain ⟨cells, imsis, hg, hp, -⟩ := place_of_create h
  obtain ⟨hk, hl⟩ := keys_place hp
  rw [size, Table.size_eq_length_keys, hk, List.length_append, List.length_reverse, hl,
    CellSource.length_of_gather hg, Nat.add_comm, ← Table.size_eq_length_keys]
  rfl

theorem size_shrink (p : Population) (n : Nat) (order : Shuffle) :
    (p.shrink n order).size = p.size - n := by
  rw [size, Table.size_eq_length_keys, (keys_shrink_perm p n order).length_eq, List.length_drop,
    (order.perm _).length_eq, ← Table.size_eq_length_keys]
  rfl

theorem size_adjust {σ : Type} {src : CellSource σ} {s : σ} {ds : List Draw} {order : Shuffle}
    (h : (p.adjust src current n ds order s).1 = some (.ok q)) :
    q.size = p.size + (n - current) - (current - n) := by
  rw [adjust] at h
  split at h
  · rw [size_create h]
    omega
  · split at h
    · cases h
      rw [size_shrink]
      omega
    · cases h
      omega

end Population

end E2Node
