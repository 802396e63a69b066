import E2Node.Proofs.Population.Alteration
import Mathlib.Data.List.Dedup
import Mathlib.Data.List.Sort

namespace E2Node

def Ue.Before (u v : Ue) : Prop := u.imsi.val < v.imsi.val

instance : Std.Asymm Ue.Before := ⟨fun _ _ h h' => UInt64.lt_irrefl _ (UInt64.lt_trans h h')⟩

theorem exists_split_of_mem_iff {l l' : List Ue} {u : Ue} (hl : l.Pairwise Ue.Before)
    (hl' : l'.Pairwise Ue.Before) (hu : u ∈ l) (h : ∀ x, x ∈ l' ↔ x ∈ l ∧ x.imsi ≠ u.imsi) :
    ∃ front back, l = front ++ u :: back ∧ l' = front ++ back := by
  obtain ⟨front, back, rfl⟩ := List.append_of_mem hu
  refine ⟨front, back, rfl, ?_⟩
  obtain ⟨hfront, hback, hcross⟩ := List.pairwise_append.1 hl
  obtain ⟨hhead, htail⟩ := List.pairwise_cons.1 hback
  have hsub : (front ++ back).Pairwise Ue.Before :=
    hl.sublist ((List.sublist_cons_self u back).append_left front)
  refine List.Pairwise.eq_of_mem_iff hl' hsub fun x => ?_
  have hne : x ∈ front ++ back → x.imsi ≠ u.imsi := by
    intro hx he
    have hlt : x.Before u ∨ u.Before x := (List.mem_append.1 hx).imp
      (fun hx => hcross x hx u List.mem_cons_self) (hhead x)
    rw [Ue.Before, Ue.Before, he] at hlt
    exact hlt.elim (UInt64.lt_irrefl _) (UInt64.lt_irrefl _)
  rw [h, List.mem_append, List.mem_append, List.mem_cons]
  constructor
  · rintro ⟨hx | rfl | hx, hi⟩
    · exact .inl hx
    · exact absurd rfl hi
    · exact .inr hx
  · intro hx
    exact ⟨hx.imp_right .inr, hne (List.mem_append.2 hx)⟩

namespace Population

variable {p q : Population} {i : Imsi} {e a b : Ecgi} {u v : Ue}

theorem Keyed.nodup_values (hp : p.Keyed) : (p.ues.values.map fun u => u.imsi.val).Nodup := by
  have hi : Function.Injective Imsi.val := fun x y h => by
    cases x
    cases y
    exact congrArg Imsi.mk h
  have hn := p.ues.distinct.map hi
  rw [← Table.keys, ← Table.map_values_eq_keys hp, List.map_map] at hn
  exact hn

theorem Keyed.toList_ascending (hp : p.Keyed) : p.toList.Pairwise Ue.Before :=
  pairwise_lt_mergeSort (fun u : Ue => u.imsi.val) hp.nodup_values

theorem Keyed.onCell_ascending (hp : p.Keyed) (e : Ecgi) : (p.onCell e).Pairwise Ue.Before :=
  pairwise_lt_mergeSort (fun u : Ue => u.imsi.val)
    (hp.nodup_values.sublist (List.filter_sublist.map _))

theorem toList_perm (p : Population) : p.toList.Perm p.ues.values := List.mergeSort_perm _ _

theorem Keyed.mem_toList_iff (hp : p.Keyed) : u ∈ p.toList ↔ p.ues.get? u.imsi = some u := by
  rw [p.toList_perm.mem_iff, Table.mem_values_iff]
  constructor
  · rintro ⟨i, hu⟩
    rwa [hp i u hu]
  · exact fun hu => ⟨_, hu⟩

theorem mem_onCell_iff : u ∈ p.onCell e ↔ u ∈ p.toList ∧ u.serving.ecgi = e := by
  rw [onCell, List.mem_mergeSort, List.mem_filter, p.toList_perm.mem_iff, decide_eq_true_iff]

theorem Keyed.onCell_eq_filter (hp : p.Keyed) (e : Ecgi) :
    p.onCell e = p.toList.filter fun u => u.serving.ecgi = e := by
  refine List.Pairwise.eq_of_mem_iff (hp.onCell_ascending e) (hp.toList_ascending.filter _)
    fun u => ?_
  rw [mem_onCell_iff, List.mem_filter, decide_eq_true_iff]

def servingCells (p : Population) : List Ecgi := (p.toList.map fun u => u.serving.ecgi).dedup

theorem mem_servingCells_iff : e ∈ p.servingCells ↔ ∃ u, u ∈ p.onCell e := by
  rw [servingCells, List.mem_dedup, List.mem_map]
  exact exists_congr fun u => mem_onCell_iff.symm

theorem Keyed.flatMap_onCell_perm (hp : p.Keyed) :
    (p.servingCells.flatMap p.onCell).Perm p.toList := by
  have hd : p.servingCells.Pairwise fun e e' => ∀ u ∈ p.onCell e, ∀ v ∈ p.onCell e', u ≠ v := by
    refine (List.nodup_dedup _).imp fun {e e'} hne u hu v hv he => hne ?_
    rw [← (mem_onCell_iff.1 hu).2, ← (mem_onCell_iff.1 hv).2, he]
  have hn : (p.servingCells.flatMap p.onCell).Nodup :=
    List.pairwise_flatMap.2 ⟨fun e _ => (hp.onCell_ascending e).nodup, hd⟩
  rw [List.perm_ext_iff_of_nodup hn hp.toList_ascending.nodup]
  intro u
  rw [List.mem_flatMap]
  constructor
  · rintro ⟨e, -, hu⟩
    exact (mem_onCell_iff.1 hu).1
  · intro hu
    have hc : u ∈ p.onCell u.serving.ecgi := mem_onCell_iff.2 ⟨hu, rfl⟩
    exact ⟨_, mem_servingCells_iff.2 ⟨u, hc⟩, hc⟩

/-- What became of the lists of the cells when `u` moved to the cell `b`, where it is `v`. -/
structure Relisted (p : Population) (u : Ue) (b : Ecgi) (v : Ue) (q : Population) : Prop where
  lost : ∃ front back, p.onCell u.serving.ecgi = front ++ u :: back ∧
    q.onCell u.serving.ecgi = front ++ back
  gained : ∃ front back, p.onCell b = front ++ back ∧ q.onCell b = front ++ v :: back ∧
    (∀ x ∈ front, x.Before v) ∧ ∀ x ∈ back, v.Before x
  others : ∀ e, e ≠ u.serving.ecgi → e ≠ b → q.onCell e = p.onCell e

theorem Keyed.mem_onCell_iff_eq (hp : p.Keyed) (hu : p.ues.get? i = some u) (hv : v.imsi = i) :
    v ∈ p.onCell e ↔ v = u ∧ u.serving.ecgi = e := by
  rw [mem_onCell_iff, hp.mem_toList_iff, hv, hu, Option.some_inj, eq_comm (a := u)]
  exact and_congr_right fun h => by rw [h]

theorem relisted_of_move (hp : p.Keyed) (hq : q.Keyed) (hu : p.ues.get? i = some u)
    (hne : u.serving.ecgi ≠ b) (hv : v.serving.ecgi = b)
    (h : ∀ j, q.ues.get? j = if j = i then some v else p.ues.get? j) : Relisted p u b v q := by
  have hqv : q.ues.get? i = some v := (h i).trans (if_pos rfl)
  have hui := hp i u hu
  have hvi := hq i v hqv
  have hother (e : Ecgi) {x : Ue} (hx : x.imsi ≠ i) : x ∈ q.onCell e ↔ x ∈ p.onCell e := by
    rw [mem_onCell_iff, mem_onCell_iff, hp.mem_toList_iff, hq.mem_toList_iff, h, if_neg hx]
  have hbefore {e : Ecgi} (he : u.serving.ecgi ≠ e) {x : Ue} (hx : x.imsi = i) :
      x ∉ p.onCell e := fun hm => he ((hp.mem_onCell_iff_eq hu hx).1 hm).2
  have hafter {e : Ecgi} (he : b ≠ e) {x : Ue} (hx : x.imsi = i) : x ∉ q.onCell e :=
    fun hm => he (hv.symm.trans ((hq.mem_onCell_iff_eq hqv hx).1 hm).2)
  refine ⟨?_, ?_, fun e ha hb => ?_⟩
  · have hm : u ∈ p.onCell u.serving.ecgi := (hp.mem_onCell_iff_eq hu hui).2 ⟨rfl, rfl⟩
    refine exists_split_of_mem_iff (hp.onCell_ascending _) (hq.onCell_ascending _) hm fun x => ?_
    rw [hui]
    by_cases hx : x.imsi = i
    · exact iff_of_false (hafter hne.symm hx) fun hm => hm.2 hx
    · rw [hother _ hx, and_iff_left hx]
  · have hm : v ∈ q.onCell b := (hq.mem_onCell_iff_eq hqv hvi).2 ⟨rfl, hv⟩
    obtain ⟨front, back, hf, hb⟩ := exists_split_of_mem_iff (hq.onCell_ascending b)
      (hp.onCell_ascending b) hm fun x => by
        rw [hvi]
        by_cases hx : x.imsi = i
        · exact iff_of_false (hbefore hne hx) fun hm => hm.2 hx
        · rw [hother _ hx, and_iff_left hx]
    have hs := hq.onCell_ascending b
    rw [hf, List.pairwise_append, List.pairwise_cons] at hs
    exact ⟨front, back, hb, hf, fun x hx => hs.2.2 x hx v List.mem_cons_self, hs.2.1.1⟩
  · refine List.Pairwise.eq_of_mem_iff (hq.onCell_ascending e) (hp.onCell_ascending e) fun x => ?_
    by_cases hx : x.imsi = i
    · exact iff_of_false (hafter hb.symm hx) (hbefore ha.symm hx)
    · exact hother e hx

/-- How the members are listed: all of them in order, those of each cell in the same order, and
after a move as before but for the two lists of the cells between which the member moved. -/
theorem listed_in_order (hp : p.Reached) :
    (∀ i u, p.get i = .ok u ↔ u ∈ p.toList ∧ u.imsi = i) ∧
    (p.toList.Pairwise fun u v => u.imsi.val < v.imsi.val) ∧
    (∀ e, p.onCell e = p.toList.filter fun u => u.serving.ecgi = e) ∧
    p.servingCells.Nodup ∧ (∀ e, e ∈ p.servingCells ↔ p.onCell e ≠ []) ∧
    (p.servingCells.flatMap p.onCell).Perm p.toList ∧
    (∀ e e', e ≠ e' → (p.onCell e).Disjoint (p.onCell e')) ∧
    p.imsis.Perm (p.toList.map Ue.imsi) ∧ p.size = p.toList.length ∧
    (p.ues.isEmpty = true ↔ p.toList = []) ∧
    ∀ live i b strength q, p.move live i b strength = .ok q →
      ∃ u, p.get i = .ok u ∧ (u.serving.ecgi ≠ b →
        Relisted p u b { u with serving := ⟨.ofEcgi b, b, strength⟩ } q) := by
  have hk := hp.keyed
  refine ⟨fun i u => ?_, hk.toList_ascending, hk.onCell_eq_filter,
    List.nodup_dedup _, fun e => ?_, hk.flatMap_onCell_perm, fun e e' hne u hu hu' => ?_, ?_, ?_,
    ?_, fun live i b strength q hq => ?_⟩
  · rw [get_eq_ok_iff, hk.mem_toList_iff]
    constructor
    · intro hu
      obtain rfl := hk i u hu
      exact ⟨hu, rfl⟩
    · rintro ⟨hu, rfl⟩
      exact hu
  · rw [mem_servingCells_iff]
    exact ⟨fun ⟨u, hu⟩ => List.ne_nil_of_mem hu, List.exists_mem_of_ne_nil _⟩
  · exact hne ((mem_onCell_iff.1 hu).2.symm.trans (mem_onCell_iff.1 hu').2)
  · rw [imsis, ← Table.map_values_eq_keys hk]
    exact (p.toList_perm.map Ue.imsi).symm
  · rw [p.toList_perm.length_eq, size, Table.values, List.length_map]
    rfl
  · rw [← List.length_eq_zero_iff, p.toList_perm.length_eq, Table.values, List.length_map,
      List.length_eq_zero_iff, Table.isEmpty, List.isEmpty_iff]
  · have hr : q.Reached := hp.call (.move live i b strength) (congrArg some hq)
    obtain ⟨-, u, hu, hj⟩ := move_eq_ok hq
    exact ⟨u, get_eq_ok_iff.2 hu, fun hne => relisted_of_move hk hr.keyed hu hne rfl hj⟩

theorem listed_of_two :
    let c : Cell := ⟨⟨0x11⟩, .origin, none, 99, .zero⟩
    let src : CellSource Unit := ⟨fun s => (.ok c, s), fun _ _ => true⟩
    let d := Draw.numbered 0
    let d' := Draw.numbered 1
    let u : Ue := .fresh d.imsi .first (.by ⟨0x11⟩ d.strength)
    let u' : Ue := .fresh d'.imsi Crnti.first.next (.by ⟨0x11⟩ d'.strength)
    let v : Ue := { u with serving := .by ⟨0x12⟩ .zero }
    ∃ p q, p.Reached ∧ (Call.create src () 2 [d, d']).end? empty = some (.ok p) ∧
      p.move (fun _ => true) d.imsi ⟨0x12⟩ .zero = .ok q ∧ p.onCell ⟨0x11⟩ = [u', u] ∧
      Relisted p u ⟨0x12⟩ v q ∧ q.onCell ⟨0x11⟩ = [u'] ∧ q.onCell ⟨0x12⟩ = [v] := by
  intro c src d d' u u' v
  have hp : Reached (empty.insertNew c d |>.insertNew c d') :=
    .call .empty (.create src () 2 [d, d']) rfl
  obtain ⟨-, -, -, -, -, -, -, -, -, -, hmove⟩ := listed_in_order hp
  obtain ⟨w, hw, hr⟩ := hmove (fun _ => true) d.imsi ⟨0x12⟩ .zero _ rfl
  obtain rfl : u = w := Except.ok.inj hw
  exact ⟨_, _, hp, rfl, rfl, List.mergeSort_of_pairwise (l := [u', u]) (by decide), hr (by decide),
    List.mergeSort_singleton u', List.mergeSort_singleton v⟩

end Population

end E2Node
