import E2Node.Proofs.Config.Layout
import E2Node.Proofs.Ident.Cell
import E2Node.Proofs.Population.Placement
import Mathlib.Data.List.Dedup

namespace E2Node

theorem mem_of_eq_append {α : Type} {before after l : List α} {a : α}
    (h : l = before ++ a :: after) : ∀ b ∈ a :: after, b ∈ l := by
  intro b hb
  rw [h]
  exact List.mem_append_right before hb

theorem exists_last {α β : Type} (f : α → β) {l : List α} {a : α} (ha : a ∈ l) :
    ∃ before b after, l = before ++ b :: after ∧ (∀ x ∈ after, f x ≠ f b) ∧ f b = f a := by
  induction l generalizing a with
  | nil => cases ha
  | cons x xs ih =>
      by_cases hx : ∃ y ∈ xs, f y = f a
      · obtain ⟨y, hy, hya⟩ := hx
        obtain ⟨before, b, after, rfl, hne, hb⟩ := ih hy
        exact ⟨x :: before, b, after, rfl, hne, hb.trans hya⟩
      · rcases List.mem_cons.1 ha with rfl | hm
        · exact ⟨[], a, xs, rfl, fun y hy he => hx ⟨y, hy, he⟩, rfl⟩
        · exact absurd ⟨a, hm, rfl⟩ hx

namespace CellRegistry

variable {r : CellRegistry} {c : Cell} {cells : List Cell}

theorem Keyed.ascending (hr : r.Keyed) :
    r.toList.Pairwise fun a b => a.ecgi.val < b.ecgi.val := by
  have hi : Function.Injective Ecgi.val := fun x y h => by
    cases x
    cases y
    exact congrArg Ecgi.mk h
  have hn := r.cells.distinct.map hi
  rw [← Table.keys, ← Table.map_values_eq_keys hr, List.map_map] at hn
  exact pairwise_lt_mergeSort (fun c : Cell => c.ecgi.val) hn

theorem Keyed.mem_toList_iff (hr : r.Keyed) : c ∈ r.toList ↔ r.cells.get? c.ecgi = some c := by
  rw [toList, List.mem_mergeSort, Table.mem_values_iff]
  constructor
  · rintro ⟨e, h⟩
    rwa [hr e c h]
  · exact fun h => ⟨_, h⟩

theorem mem_toList_ofList : c ∈ (ofList cells).toList ↔
    ∃ before after, cells = before ++ c :: after ∧ ∀ d ∈ after, d.ecgi ≠ c.ecgi := by
  rw [(keyed_ofList cells).mem_toList_iff, ofList, Table.get?_ofList_eq_some_iff]
  constructor
  · rintro ⟨before, after, he, hne⟩
    obtain ⟨front, back, rfl, -, hb⟩ := List.map_eq_append_iff.1 he
    obtain ⟨d, back, rfl, hd, rfl⟩ := List.map_eq_cons_iff.1 hb
    obtain rfl : d = c := congrArg Prod.snd hd
    exact ⟨front, back, rfl, fun x hx => hne _ (List.mem_map_of_mem hx)⟩
  · rintro ⟨before, after, rfl, hne⟩
    refine ⟨_, _, List.map_append, fun e he => ?_⟩
    obtain ⟨d, hd, rfl⟩ := List.mem_map.1 he
    exact hne d hd

end CellRegistry

namespace Configuration

variable {c : Configuration} {plmn : Plmn}

def cellEntries (c : Configuration) : List (NodeEntry × CellEntry) :=
  c.nodes.flatMap fun n => n.cells.map fun x => (n, x)

def place (p : NodeEntry × CellEntry) : UInt32 × UInt8 := (p.1.gnb, p.2.id)

def cellOf (plmn : Plmn) (p : NodeEntry × CellEntry) : Cell := p.2.cell plmn ⟨p.1.gnb⟩

def ecgiAt (plmn : Plmn) (k : UInt32 × UInt8) : Ecgi := .ofParts plmn (.ofParts ⟨k.1⟩ ⟨k.2⟩)

theorem ecgi_cellOf (plmn : Plmn) (p : NodeEntry × CellEntry) :
    (cellOf plmn p).ecgi = ecgiAt plmn (place p) := rfl

theorem cells_eq_map (h : c.WellLaid) (hp : c.plmnId = .ok plmn) :
    c.cells = .ok (c.cellEntries.map (cellOf plmn)) := by
  rw [h.cells_eq hp, cellEntries, List.map_flatMap]
  simp only [List.map_map]
  rfl

theorem WellLaid.le_max (h : c.WellLaid) {p : NodeEntry × CellEntry} (hp : p ∈ c.cellEntries) :
    (EnbId.mk p.1.gnb).val ≤ EnbId.max := by
  obtain ⟨n, hn, hx⟩ := List.mem_flatMap.1 hp
  obtain ⟨x, -, rfl⟩ := List.mem_map.1 hx
  have hr : n.gnb ≤ EnbId.max := h.inRange n hn
  exact hr

theorem WellLaid.place_of_ecgi (h : c.WellLaid) {p : NodeEntry × CellEntry}
    (hp : p ∈ c.cellEntries) (plmn : Plmn) :
    ((cellOf plmn p).ecgi.enbId.val, (cellOf plmn p).ecgi.cellId.val) = place p := by
  obtain ⟨-, -, hn, hc⟩ := Ecgi.parts_ofParts plmn ⟨p.2.id⟩ (h.le_max hp)
  exact Prod.ext (congrArg EnbId.val hn) (congrArg CellId.val hc)

theorem WellLaid.ecgi_eq_iff (h : c.WellLaid) {p q : NodeEntry × CellEntry}
    (hp : p ∈ c.cellEntries) (hq : q ∈ c.cellEntries) :
    (cellOf plmn p).ecgi = (cellOf plmn q).ecgi ↔ place p = place q := by
  constructor
  · intro he
    rw [← h.place_of_ecgi hp plmn, ← h.place_of_ecgi hq plmn, he]
  · intro he
    rw [ecgi_cellOf, ecgi_cellOf, he]

theorem WellLaid.nodup_places_iff (h : c.WellLaid) :
    (c.cellEntries.map place).Nodup ↔ ∀ n ∈ c.nodes, (n.cells.map CellEntry.id).Nodup := by
  have hp : c.cellEntries.map place =
      c.nodes.flatMap fun n => (n.cells.map CellEntry.id).map (Prod.mk n.gnb) := by
    rw [cellEntries, List.map_flatMap]
    simp only [List.map_map]
    rfl
  have hd : c.nodes.Pairwise fun m n => ∀ x ∈ (m.cells.map CellEntry.id).map (Prod.mk m.gnb),
      ∀ y ∈ (n.cells.map CellEntry.id).map (Prod.mk n.gnb), x ≠ y := by
    refine (List.pairwise_map.1 h.distinct).imp fun {m n} hne x hx y hy he => hne ?_
    obtain ⟨i, -, rfl⟩ := List.mem_map.1 hx
    obtain ⟨j, -, rfl⟩ := List.mem_map.1 hy
    exact congrArg Prod.fst he
  have hi (n : NodeEntry) : ((n.cells.map CellEntry.id).map (Prod.mk n.gnb)).Nodup ↔
      (n.cells.map CellEntry.id).Nodup :=
    List.nodup_map_iff (Prod.mk_right_injective n.gnb)
  rw [hp, List.Nodup, List.pairwise_flatMap, and_iff_left hd]
  exact forall₂_congr fun n _ => hi n

theorem WellLaid.nodup_ecgis_iff (h : c.WellLaid) (plmn : Plmn) :
    ((c.cellEntries.map (cellOf plmn)).map Cell.ecgi).Nodup ↔ (c.cellEntries.map place).Nodup := by
  rw [List.map_map, List.Nodup, List.Nodup, List.pairwise_map, List.pairwise_map]
  exact List.Pairwise.iff_of_mem fun hp hq => not_congr (h.ecgi_eq_iff hp hq)

theorem WellLaid.mem_toList_iff (h : c.WellLaid) {x : Cell} :
    x ∈ (CellRegistry.ofList (c.cellEntries.map (cellOf plmn))).toList ↔
      ∃ before p after, c.cellEntries = before ++ p :: after ∧
        (∀ q ∈ after, place q ≠ place p) ∧ x = cellOf plmn p := by
  rw [CellRegistry.mem_toList_ofList]
  constructor
  · rintro ⟨before, after, he, hne⟩
    obtain ⟨front, back, hl, -, hb⟩ := List.map_eq_append_iff.1 he
    obtain ⟨p, back, rfl, rfl, rfl⟩ := List.map_eq_cons_iff.1 hb
    have hm := mem_of_eq_append hl
    exact ⟨front, p, back, hl, fun q hq hpq => hne _ (List.mem_map_of_mem hq)
      ((h.ecgi_eq_iff (hm q (.tail _ hq)) (hm p (.head _))).2 hpq), rfl⟩
  · rintro ⟨before, p, after, hl, hne, rfl⟩
    refine ⟨_, _, by rw [hl, List.map_append, List.map_cons], fun d hd he => ?_⟩
    obtain ⟨q, hq, rfl⟩ := List.mem_map.1 hd
    have hm := mem_of_eq_append hl
    exact hne q hq ((h.ecgi_eq_iff (hm q (.tail _ hq)) (hm p (.head _))).1 he)

theorem WellLaid.places_perm (h : c.WellLaid) (plmn : Plmn) :
    ((CellRegistry.ofList (c.cellEntries.map (cellOf plmn))).toList.map fun x =>
      (x.ecgi.enbId.val, x.ecgi.cellId.val)).Perm (c.cellEntries.map place).dedup := by
  have hlist {x : Cell} (hx : x ∈ (CellRegistry.ofList (c.cellEntries.map (cellOf plmn))).toList) :
      ∃ p ∈ c.cellEntries, x = cellOf plmn p := by
    obtain ⟨before, p, after, hl, -, rfl⟩ := h.mem_toList_iff.1 hx
    exact ⟨p, mem_of_eq_append hl p (.head _), rfl⟩
  rw [List.perm_ext_iff_of_nodup _ (List.nodup_dedup _)]
  · intro k
    rw [List.mem_dedup, List.mem_map, List.mem_map]
    constructor
    · rintro ⟨x, hx, rfl⟩
      obtain ⟨p, hp, rfl⟩ := hlist hx
      exact ⟨p, hp, (h.place_of_ecgi hp plmn).symm⟩
    · rintro ⟨p, hp, rfl⟩
      obtain ⟨before, q, after, hl, hne, hq⟩ := exists_last place hp
      have hm := mem_of_eq_append hl q (.head _)
      exact ⟨_, h.mem_toList_iff.2 ⟨before, q, after, hl, hne, rfl⟩,
        (h.place_of_ecgi hm plmn).trans hq⟩
  · refine List.pairwise_map.2 ((CellRegistry.keyed_ofList _).ascending.imp_of_mem ?_)
    intro x y hx hy hlt he
    obtain ⟨p, hp, rfl⟩ := hlist hx
    obtain ⟨q, hq, rfl⟩ := hlist hy
    have hpq : place p = place q := by
      rw [← h.place_of_ecgi hp plmn, ← h.place_of_ecgi hq plmn, he]
    rw [(h.ecgi_eq_iff hp hq).2 hpq] at hlt
    exact UInt64.lt_irrefl _ hlt

end Configuration

theorem CellRegistry.get_eq_ok_iff {r : CellRegistry} {e : Ecgi} {x : Cell} :
    r.get e = .ok x ↔ r.cells.get? e = some x := by
  rw [get]
  cases r.cells.get? e <;> simp

/-- What became of the cells of an accepted configuration: which of them the registry has, and what
their identifiers tell. -/
theorem Configuration.inventory_exact (c : Configuration) (h : c.fault? = none) :
    ∃ plmn cells, c.plmnId = .ok plmn ∧ c.cells = .ok cells ∧
      cells = c.cellEntries.map (cellOf plmn) ∧
      ((cells.map Cell.ecgi).Nodup ↔ ∀ n ∈ c.nodes, (n.cells.map CellEntry.id).Nodup) ∧
      (∀ x, x ∈ (CellRegistry.ofList cells).toList ↔
        ∃ before p after, c.cellEntries = before ++ p :: after ∧
          (∀ q ∈ after, place q ≠ place p) ∧ x = cellOf plmn p) ∧
      ((CellRegistry.ofList cells).toList.map fun x =>
        (x.ecgi.enbId.val, x.ecgi.cellId.val)).Perm (c.cellEntries.map place).dedup ∧
      (∀ e x, (CellRegistry.ofList cells).get e = .ok x ↔
        x ∈ (CellRegistry.ofList cells).toList ∧ x.ecgi = e) ∧
      (∀ p ∈ c.cellEntries, (cellOf plmn p).ecgi.enbId = ⟨p.1.gnb⟩ ∧
        (cellOf plmn p).ecgi.cellId = ⟨p.2.id⟩ ∧ (cellOf plmn p).ecgi.plmnU24 = plmn.u24 ∧
        ∀ text q, Plmn.parse text = .ok q → q.u24 = (cellOf plmn p).ecgi.plmnU24 →
          q = plmn ∧ text = c.plmn) ∧
      (CellRegistry.ofList cells).toList.Pairwise fun x y => x.ecgi.val < y.ecgi.val := by
  have hw := fault?_eq_none_iff.1 h
  obtain ⟨plmn, hp⟩ := hw.exists_plmnId
  have hr := CellRegistry.keyed_ofList (c.cellEntries.map (cellOf plmn))
  refine ⟨plmn, _, hp, cells_eq_map hw hp, rfl, ?_, fun x => hw.mem_toList_iff,
    hw.places_perm plmn, fun e x => ?_, fun p hm => ?_, hr.ascending⟩
  · rw [hw.nodup_ecgis_iff, hw.nodup_places_iff]
  · rw [CellRegistry.get_eq_ok_iff, hr.mem_toList_iff]
    constructor
    · intro he
      obtain rfl := hr e x he
      exact ⟨he, rfl⟩
    · rintro ⟨he, rfl⟩
      exact he
  · obtain ⟨hu, -, hn, hc⟩ := Ecgi.parts_ofParts plmn ⟨p.2.id⟩ (hw.le_max hm)
    refine ⟨hn, hc, hu, fun text q hq he => ?_⟩
    have hs := plmnId_eq_ok_iff.1 hp
    have hqu : q.u24 = plmn.u24 := he.trans hu
    exact ⟨Plmn.eq_of_u24_eq hq hs hqu, Plmn.text_eq_of_encode_eq hq hs (Octets.u24_inj.1 hqu)⟩

theorem Configuration.repeated_cell_kept_once :
    let text := "[\"20893\",1,[[\"r\",\"a\"]],[[7,[\"r\"],[[3,[0,0]],[1,[0,0]],[3,[0,0],null,5]]]," ++
      "[4,[\"r\"],[[3,[0,0]]]]]]"
    let x (id : UInt8) (maxUes : UInt32) : CellEntry :=
      ⟨id, .origin, none, maxUes, Dialect.defaultPower⟩
    let c : Configuration := ⟨"20893", 1, [⟨"r", "a", 36421⟩],
      [⟨7, ["r"], [x 3 99999, x 1 99999, x 3 5]⟩, ⟨4, ["r"], [x 3 99999]⟩], "info"⟩
    let plmn : Plmn := ⟨⟨2, 0, 8⟩, ⟨9, 3, 0⟩, 2⟩
    parse text "json" = .ok c ∧ ∃ cells, c.cells = .ok cells ∧
      ¬ (cells.map Cell.ecgi).Nodup ∧
      (CellRegistry.ofList cells).get (.ofParts plmn (.ofParts ⟨7⟩ ⟨3⟩)) =
        .ok ((x 3 5).cell plmn ⟨7⟩) ∧
      (CellRegistry.ofList cells).toList.length = 3 := by
  intro text x c plmn
  have hr : parse text "json" = .ok c := eq_ok_of_toOption (by decide +kernel)
  obtain ⟨plmn', cells, hp, hc, rfl, hu, hm, hd, hg, -⟩ := inventory_exact c (fault?_of_parse hr)
  have hplmn : c.plmnId = .ok plmn := plmnId_eq_ok_iff.2 (by decide)
  obtain rfl : plmn = plmn' := Except.ok.inj (hplmn.symm.trans hp)
  have hlast : c.cellEntries = c.cellEntries.take 2 ++ (⟨7, ["r"], [x 3 99999, x 1 99999, x 3 5]⟩,
      x 3 5) :: c.cellEntries.drop 3 := rfl
  refine ⟨hr, _, hc, fun hn => ?_, (hg _ _).2 ⟨(hm _).2 ⟨_, _, _, hlast, ?_, rfl⟩, rfl⟩, ?_⟩
  · exact absurd (hu.1 hn _ (.head _)) (by decide)
  · decide
  · have hl := hd.length_eq
    rw [List.length_map] at hl
    exact hl.trans (by decide)

end E2Node
