import E2Node.Proofs.Population.Quantity

namespace E2Node

namespace CellRegistry

variable {r r' : CellRegistry} {c : Cell} {e e' : Ecgi}

def Keyed (r : CellRegistry) : Prop := ∀ e c, r.cells.get? e = some c → c.ecgi = e

theorem keyed_ofList (cells : List Cell) : (ofList cells).Keyed := by
  have grows : ∀ (es : List (Ecgi × Cell)) (t : Table Ecgi Cell), (∀ x ∈ es, x.2.ecgi = x.1) →
      Keyed ⟨t⟩ → Keyed ⟨es.foldl (fun t x => t.insert x.1 x.2) t⟩ := by
    intro es
    induction es with
    | nil => exact fun _ _ h => h
    | cons x es ih =>
        intro t hes ht
        refine ih _ (fun y hy => hes y (List.mem_cons_of_mem _ hy)) ?_
        intro e c hc
        rw [Table.get?_insert] at hc
        split at hc
        · rename_i he
          cases hc
          rw [he]
          exact hes x List.mem_cons_self
        · exact ht e c hc
  refine grows _ _ (fun x hx => ?_) fun e c h => by cases h
  obtain ⟨c, -, rfl⟩ := List.mem_map.1 hx
  rfl

theorem contains_of_pick {choice : Nat} (hr : r.Keyed) (h : r.pick choice = .ok c) :
    r.contains c.ecgi = true := by
  rw [pick] at h
  split at h
  · rename_i x hx
    cases h
    have hm : c ∈ r.cells.values := List.mem_mergeSort.1 (List.mem_of_getElem? hx)
    obtain ⟨⟨e, x⟩, he, rfl⟩ := List.mem_map.1 hm
    have hg := Table.get?_of_mem he
    rw [hr e x hg, contains, Table.contains, hg]
    rfl
  · cases h

theorem add_eq_ok (h : r.add c = .ok r') :
    r' = ⟨r.cells.insert c.ecgi c⟩ := by
  rw [add] at h
  split at h
  · cases h
  · cases h
    rfl

theorem remove_eq_ok (h : r.remove e = .ok (c, r')) : r' = ⟨r.cells.erase e⟩ := by
  rw [remove] at h
  split at h
  · cases h
    rfl
  · cases h

end CellRegistry

def CellSource.chosen (choice : Nat → Nat) : CellSource Rotation where
  pick s := (s.cells.pick (choice s.asked), { s with asked := s.asked + 1 })
  contains s := s.cells.contains

theorem CellSource.Gives.contains {choice : Nat → Nat} {s s' : Rotation} {cells : List Cell}
    (h : (chosen choice).Gives s cells s') (hs : s.cells.Keyed) :
    ∀ c ∈ cells, s.cells.contains c.ecgi = true := by
  induction h with
  | nil => exact nofun
  | cons hp _ ih =>
      obtain ⟨hc, rfl⟩ := Prod.mk.inj hp
      intro c hm
      rcases List.mem_cons.1 hm with rfl | hm
      · exact CellRegistry.contains_of_pick hs hc
      · exact ih hs c hm

namespace Population

variable {p q : Population} {r : CellRegistry} {is : List Imsi} {cells : List Cell}

inductive Request
  | create (choice : Nat → Nat) (n : Nat) (ds : List Draw)
  | setCount (choice : Nat → Nat) (n : Nat) (ds : List Draw) (order : Shuffle)
  | destroy (imsi : Imsi)
  | move (imsi : Imsi) (ecgi : Ecgi) (strength : Binary64)

def Request.on (r : CellRegistry) : Request → Call
  | .create choice n ds => .create (.chosen choice) ⟨r, 0⟩ n ds
  | .setCount choice n ds order => .setCount (.chosen choice) ⟨r, 0⟩ n ds order
  | .destroy imsi => .destroy imsi
  | .move imsi ecgi strength => .move r.contains imsi ecgi strength

/-- Only the members `is` are placed, and each of them on a cell of the registry. -/
structure Places (r : CellRegistry) (p : Population) (is : List Imsi) (q : Population) : Prop where
  live : ∀ i ∈ is, ∃ u, q.ues.get? i = some u ∧ r.contains u.serving.ecgi = true
  others : ∀ i u, q.ues.get? i = some u → i ∈ is ∨ p.ues.get? i = some u

theorem places_place {ds : List Draw} (hc : ∀ c ∈ cells, r.contains c.ecgi = true)
    (h : place cells ds p = some (is, q)) : Places r p is q := by
  induction cells generalizing ds p is with
  | nil =>
      cases h
      exact ⟨nofun, fun _ _ h => .inr h⟩
  | cons c cs ih =>
      obtain ⟨d, ds', is', hfree, rfl, hp⟩ := place_cons h
      obtain ⟨hl, ho⟩ := ih (fun x hx => hc x (List.mem_cons_of_mem _ hx)) hp
      constructor
      · intro i hi
        rcases List.mem_cons.1 hi with rfl | hi
        · have hd := get?_of_place hp ((get?_insertNew p c d d.imsi).trans (if_pos rfl))
          exact ⟨_, hd, hc c List.mem_cons_self⟩
        · exact hl i hi
      · intro i u hu
        rcases ho i u hu with hi | hi
        · exact .inl (List.mem_cons_of_mem _ hi)
        · rw [get?_insertNew] at hi
          split at hi
          · rename_i he
            exact .inl (he ▸ List.mem_cons_self)
          · exact .inr hi

theorem places_create (hr : r.Keyed) {choice : Nat → Nat} {n : Nat} {ds : List Draw}
    (h : (p.create (.chosen choice) n ds ⟨r, 0⟩).1.map (fun x => x.map Prod.snd) = some (.ok q)) :
    Places r p (made (p.create (.chosen choice) n ds ⟨r, 0⟩).1) q := by
  obtain ⟨cells, is, hg, hp, he⟩ := place_of_create h
  obtain ⟨s', hs⟩ := CellSource.gives_of_gather hg
  rw [he]
  exact places_place (hs.contains hr) hp

theorem places_discardAll (r : CellRegistry) (p : Population) (is : List Imsi) :
    Places r p [] (is.foldl discard p) where
  live := nofun
  others i u h := by
    rw [get?_discardAll] at h
    split at h
    · cases h
    · exact .inr h

theorem places_of_end (hr : r.Keyed) {x : Request} (h : (x.on r).end? p = some (.ok q)) :
    Places r p ((x.on r).created p ++ (x.on r).moved) q := by
  cases x with
  | create choice n ds =>
      dsimp only [Request.on, Call.created, Call.moved]
      rw [List.append_nil]
      exact places_create hr h
  | setCount choice n ds order =>
      dsimp only [Request.on, Call.created, Call.moved]
      rw [List.append_nil]
      change (p.adjust (.chosen choice) p.size n ds order ⟨r, 0⟩).1 = _ at h
      rw [adjust] at h
      split at h
      · rename_i hn
        rw [if_pos hn]
        exact places_create hr h
      · rename_i hn
        rw [if_neg hn]
        split at h
        · cases h
          exact places_discardAll r p _
        · cases h
          exact places_discardAll r p []
  | destroy imsi =>
      rw [eq_discard_of_destroy (Option.some.inj h)]
      exact places_discardAll r p [imsi]
  | move imsi ecgi strength =>
      obtain ⟨hl, u, hu, hq⟩ := move_eq_ok (Option.some.inj h)
      constructor
      · intro i hi
        rw [List.mem_singleton.1 hi]
        exact ⟨_, (hq imsi).trans (if_pos rfl), hl⟩
      · intro i v hv
        rw [hq] at hv
        split at hv
        · rename_i hi
          exact .inl (List.mem_singleton.2 hi)
        · exact .inr hv

end Population

structure Site where
  cells : CellRegistry
  population : Population

namespace Site

inductive Operation
  | request (x : Population.Request)
  | addCell (c : Cell)
  | removeCell (e : Ecgi)

inductive Occurrence
  | placed (imsi : Imsi)
  | removed (e : Ecgi)
  deriving DecidableEq

def perform (s : Site) : Operation → List Occurrence × Site
  | .request x =>
      match (x.on s.cells).end? s.population with
      | some (.ok q) =>
          (((x.on s.cells).created s.population ++ (x.on s.cells).moved).map .placed, ⟨s.cells, q⟩)
      | some (.error _) | none => ([], s)
  | .addCell c =>
      match s.cells.add c with
      | .ok r => ([], ⟨r, s.population⟩)
      | .error _ => ([], s)
  | .removeCell e =>
      match s.cells.remove e with
      | .ok (_, r) => ([.removed e], ⟨r, s.population⟩)
      | .error _ => ([], s)

def run (s : Site) : List Operation → List Occurrence × Site
  | [] => ([], s)
  | o :: os =>
      let x := s.perform o
      let y := x.2.run os
      (x.1 ++ y.1, y.2)

/-- What occurred after a member was placed last, the latest first. -/
def sincePlaced (i : Imsi) (os : List Occurrence) : List Occurrence :=
  os.reverse.takeWhile (· ≠ .placed i)

variable {s t : Site} {occ os : List Occurrence} {i : Imsi} {e : Ecgi}

theorem sincePlaced_append (hi : .placed i ∉ occ) :
    sincePlaced i (os ++ occ) = occ.reverse ++ sincePlaced i os := by
  rw [sincePlaced, List.reverse_append, List.takeWhile_append_of_pos, sincePlaced]
  intro o ho
  rw [decide_eq_true_iff]
  rintro rfl
  exact hi (List.mem_reverse.1 ho)

theorem mem_of_mem_sincePlaced {o : Occurrence} (h : o ∈ sincePlaced i os) : o ∈ os :=
  List.mem_reverse.1 ((List.takeWhile_sublist _).subset h)

structure Leads (s : Site) (occ : List Occurrence) (t : Site) : Prop where
  keyed : t.cells.Keyed
  live : ∀ i, .placed i ∈ occ →
    ∃ u, t.population.ues.get? i = some u ∧ s.cells.contains u.serving.ecgi = true
  others : ∀ i u, t.population.ues.get? i = some u →
    .placed i ∈ occ ∨ s.population.ues.get? i = some u
  kept : ∀ e, s.cells.contains e = true → t.cells.contains e = true ∨ .removed e ∈ occ
  whole : ∀ i e, .placed i ∈ occ → .removed e ∉ occ

theorem Leads.refl (h : s.cells.Keyed) : Leads s [] s :=
  ⟨h, nofun, fun _ _ => .inr, fun _ => .inl, nofun⟩

theorem perform_leads (h : s.cells.Keyed) (o : Operation) :
    Leads s (s.perform o).1 (s.perform o).2 := by
  cases o with
  | request x =>
      rw [perform]
      split
      · rename_i q hq
        obtain ⟨hl, ho⟩ := Population.places_of_end h hq
        refine ⟨h, fun i hi => ?_, fun i u hu => ?_, fun _ => .inl, fun i e _ => by simp⟩
        · obtain ⟨j, hj, he⟩ := List.mem_map.1 hi
          cases he
          exact hl i hj
        · exact (ho i u hu).imp_left fun hi => List.mem_map_of_mem hi
      · exact .refl h
      · exact .refl h
  | addCell c =>
      rw [perform]
      split
      · rename_i r hr
        cases CellRegistry.add_eq_ok hr
        refine ⟨fun e x hx => ?_, nofun, fun _ _ => .inr, fun e he => .inl ?_, nofun⟩
        · rw [Table.get?_insert] at hx
          split at hx
          · rename_i he
            cases hx
            exact he.symm
          · exact h e x hx
        · rw [CellRegistry.contains, Table.contains, Table.get?_insert]
          split
          · rfl
          · exact he
      · exact .refl h
  | removeCell e =>
      rw [perform]
      split
      · rename_i c r hr
        cases CellRegistry.remove_eq_ok hr
        refine ⟨fun e' x hx => ?_, by simp, fun _ _ => .inr, fun e' he => ?_, by simp⟩
        · rw [Table.get?_erase] at hx
          split at hx
          · cases hx
          · exact h e' x hx
        · rw [CellRegistry.contains, Table.contains, Table.get?_erase]
          by_cases hx : e' = e
          · exact .inr (by simp [hx])
          · rw [if_neg hx]
            exact .inl he
      · exact .refl h

/-- Each member is on a live cell, or on one that was removed since it was placed. -/
structure Settled (os : List Occurrence) (s : Site) : Prop where
  keyed : s.cells.Keyed
  placed : ∀ i u, s.population.ues.get? i = some u → .placed i ∈ os
  served : ∀ i u, s.population.ues.get? i = some u →
    s.cells.contains u.serving.ecgi = true ∨ .removed u.serving.ecgi ∈ sincePlaced i os

theorem Settled.next (h : Settled os s) (hl : Leads s occ t) : Settled (os ++ occ) t where
  keyed := hl.keyed
  placed i u hu := by
    rcases hl.others i u hu with hi | hu
    · exact List.mem_append_right _ hi
    · exact List.mem_append_left _ (h.placed i u hu)
  served i u hu := by
    by_cases hi : .placed i ∈ occ
    · obtain ⟨v, hv, hc⟩ := hl.live i hi
      cases hu.symm.trans hv
      exact .inl ((hl.kept _ hc).resolve_right (hl.whole i _ hi))
    · rw [sincePlaced_append hi, List.mem_append, List.mem_reverse]
      rcases h.served i u ((hl.others i u hu).resolve_left hi) with hc | hr
      · exact (hl.kept _ hc).imp_right .inl
      · exact .inr (.inr hr)

theorem Settled.run (h : Settled os s) (ops : List Operation) :
    Settled (os ++ (s.run ops).1) (s.run ops).2 := by
  induction ops generalizing os s with
  | nil => simpa [Site.run] using h
  | cons o ops ih =>
      rw [Site.run, ← List.append_assoc]
      exact ih (h.next (perform_leads h.keyed o))

def start (cells : List Cell) : Site := ⟨.ofList cells, .empty⟩

/-- Each member is served by a live cell, or by one that was removed after the member was placed
last. Where no cell is removed all members are on live cells. An operation places members on cells
that are live, and leaves all others where they were. -/
theorem members_on_live_cells (cells : List Cell) (ops : List Operation) :
    let r := (start cells).run ops
    (∀ i u, r.2.population.ues.get? i = some u → .placed i ∈ r.1 ∧
      (r.2.cells.contains u.serving.ecgi = true ∨
        .removed u.serving.ecgi ∈ sincePlaced i r.1)) ∧
    ((∀ e, .removed e ∉ r.1) → ∀ i u, r.2.population.ues.get? i = some u →
      r.2.cells.contains u.serving.ecgi = true) ∧
    ∀ o, Leads r.2 (r.2.perform o).1 (r.2.perform o).2 := by
  intro r
  have h₀ : Settled [] (start cells) := ⟨CellRegistry.keyed_ofList cells, nofun, nofun⟩
  have h := h₀.run ops
  rw [List.nil_append] at h
  refine ⟨fun i u hu => ⟨h.placed i u hu, h.served i u hu⟩, fun hn i u hu => ?_,
    fun o => perform_leads h.keyed o⟩
  exact (h.served i u hu).resolve_right fun hr => hn _ (mem_of_mem_sincePlaced hr)

theorem members_on_removed_cell :
    let cell (n : UInt64) : Cell := ⟨⟨n⟩, .origin, none, 99, .zero⟩
    let d := Draw.numbered 0
    let ops := [Operation.request (.create id 1 [d]), .addCell (cell 2), .removeCell ⟨1⟩,
      .request (.move d.imsi ⟨1⟩ .zero)]
    let r := (start [cell 1]).run ops
    r.2.cells.contains ⟨1⟩ = false ∧ ∃ u, r.2.population.ues.get? d.imsi = some u ∧
      u.serving.ecgi = ⟨1⟩ ∧ .removed ⟨1⟩ ∈ sincePlaced d.imsi r.1 := by
  intro cell d ops r
  have hlist : (CellRegistry.ofList [cell 1]).toList = [cell 1] := List.mergeSort_singleton _
  have hpick : (CellRegistry.ofList [cell 1]).pick 0 = .ok (cell 1) := by
    rw [CellRegistry.pick, hlist]
    rfl
  have hmade : Population.empty.create (.chosen id) 1 [d] ⟨.ofList [cell 1], 0⟩ =
      (some (.ok ([d.imsi], Population.empty.insertNew (cell 1) d)), ⟨.ofList [cell 1], 1⟩) := by
    simp only [Population.create, CellSource.gather, CellSource.chosen, id_eq, hpick]
    rfl
  have hfirst : (start [cell 1]).perform (.request (.create id 1 [d])) =
      ([.placed d.imsi], ⟨.ofList [cell 1], Population.empty.insertNew (cell 1) d⟩) := by
    simp only [perform, Population.Request.on, Population.Call.end?, Population.Call.created, start,
      hmade]
    rfl
  have hrun : r = ([.placed d.imsi, .removed ⟨1⟩],
      ⟨⟨(Table.empty.insert ⟨2⟩ (cell 2))⟩, Population.empty.insertNew (cell 1) d⟩) := by
    simp only [r, ops, run, hfirst]
    rfl
  have hs : ∀ u, r.2.population.ues.get? d.imsi = some u → .placed d.imsi ∈ r.1 ∧
      (r.2.cells.contains u.serving.ecgi = true ∨
        .removed u.serving.ecgi ∈ sincePlaced d.imsi r.1) :=
    (members_on_live_cells [cell 1] ops).1 d.imsi
  rw [hrun] at hs ⊢
  exact ⟨by decide, _, rfl, rfl, (hs _ rfl).2.resolve_left (by decide)⟩

end Site

end E2Node
