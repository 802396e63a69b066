import E2Node.Proofs.Population.Replica
import E2Node.Proofs.Population.Members
import Mathlib.Data.Finset.Card

namespace E2Node

namespace CellSource

variable {σ : Type} {n : Nat} {s s' t : σ} {cells : List Cell} {e : RegistryError}

/-- The cells that a source gives when it is asked again and again. -/
inductive Gives (src : CellSource σ) : σ → List Cell → σ → Prop
  | nil {a} : Gives src a [] a
  | cons {a b d c cs} (hp : src.pick a = (.ok c, b)) (h : Gives src b cs d) :
      Gives src a (c :: cs) d

variable {src : CellSource σ}

theorem Gives.gather (h : src.Gives s cells s') :
    src.gather cells.length s = (.ok cells, s') := by
  induction h with
  | nil => rfl
  | cons hp _ ih => simp only [List.length_cons, CellSource.gather, hp, ih]

theorem gives_of_gather (h : (src.gather n s).1 = .ok cells) : ∃ s', src.Gives s cells s' := by
  induction n generalizing s cells with
  | zero =>
      cases h
      exact ⟨s, .nil⟩
  | succ n ih =>
      rw [CellSource.gather] at h
      cases hp : src.pick s with
      | mk r t =>
          cases r with
          | error e => simp [hp] at h
          | ok c =>
              simp only [hp] at h
              cases hg : src.gather n t with
              | mk r t' =>
                  cases r with
                  | error e => simp [hg] at h
                  | ok cs =>
                      simp only [hg, Except.ok.injEq] at h
                      have hcs : (src.gather n t).1 = .ok cs := by rw [hg]
                      obtain ⟨s', hs⟩ := ih hcs
                      subst h
                      exact ⟨s', .cons hp hs⟩

theorem Gives.gather_error (h : src.Gives s cells t) (hn : cells.length < n)
    (hp : src.pick t = (.error e, s')) : src.gather n s = (.error e, s') := by
  induction h generalizing n with
  | nil =>
      cases n with
      | zero => exact absurd hn (Nat.not_lt_zero _)
      | succ n => simp only [CellSource.gather, hp]
  | cons hc _ ih =>
      cases n with
      | zero => exact absurd hn (Nat.not_lt_zero _)
      | succ n =>
          have hr := ih (Nat.lt_of_succ_lt_succ hn) hp
          simp only [CellSource.gather, hc, hr]

end CellSource

def Draw.band : List Draw :=
  (List.range Population.capacity).map fun n => ⟨.ofPlace n, .zero, Imsi.inBand_ofPlace n⟩

namespace Population

variable {p q : Population} {n : Nat} {cells : List Cell} {ds ds' : List Draw} {d : Draw}
  {new gone : List Ue} {u : Ue} {i : Imsi}

def free (p : Population) (ds : List Draw) : Finset Imsi :=
  (ds.map Draw.imsi).toFinset.filter fun i => p.ues.get? i = none

theorem mem_free : i ∈ p.free ds ↔ (∃ d ∈ ds, d.imsi = i) ∧ p.ues.get? i = none := by
  simp only [free, Finset.mem_filter, List.mem_toFinset, List.mem_map]

theorem free_cons_of_taken (h : p.ues.contains d.imsi = true) (ds : List Draw) :
    p.free (d :: ds) = p.free ds := by
  ext i
  rw [mem_free, mem_free, List.exists_mem_cons_iff]
  constructor
  · rintro ⟨rfl | hx, hn⟩
    · simp [Table.contains, hn] at h
    · exact ⟨hx, hn⟩
  · rintro ⟨hx, hn⟩
    exact ⟨.inr hx, hn⟩

theorem free_cons_of_free (h : p.ues.get? d.imsi = none) (ds : List Draw) :
    p.free (d :: ds) = insert d.imsi (p.free ds) := by
  ext i
  rw [Finset.mem_insert, mem_free, mem_free, List.exists_mem_cons_iff]
  by_cases hi : i = d.imsi
  · simp [hi, h]
  · simp [hi, Ne.symm hi]

theorem free_insertNew (p : Population) (c : Cell) (d : Draw) (ds : List Draw) :
    (p.insertNew c d).free ds = (p.free ds).erase d.imsi := by
  ext i
  rw [Finset.mem_erase, mem_free, mem_free, get?_insertNew]
  by_cases hi : i = d.imsi <;> simp [hi]

theorem firstFree_eq_none_iff : firstFree p.ues ds = none ↔ p.free ds = ∅ := by
  induction ds with
  | nil => simp [firstFree, free]
  | cons d ds ih =>
      rw [firstFree]
      split
      · rename_i h
        rw [ih, free_cons_of_taken h]
      · rename_i h
        rw [free_cons_of_free (by simpa [Table.contains] using h)]
        simp

theorem free_of_firstFree (h : firstFree p.ues ds = some (d, ds')) :
    p.free ds = insert d.imsi (p.free ds') := by
  induction ds with
  | nil => cases h
  | cons x xs ih =>
      rw [firstFree] at h
      split at h
      · rename_i hx
        rw [free_cons_of_taken hx, ih h]
      · rename_i hx
        cases h
        exact free_cons_of_free (by simpa [Table.contains] using hx) _

theorem card_free_of_firstFree (h : firstFree p.ues ds = some (d, ds')) (c : Cell) :
    ((p.insertNew c d).free ds').card + 1 = (p.free ds).card := by
  rw [free_of_firstFree h, free_insertNew, ← Finset.erase_insert_eq_erase]
  exact Finset.card_erase_add_one (Finset.mem_insert_self _ _)

theorem isSome_place_iff (cells : List Cell) (ds : List Draw) (p : Population) :
    (place cells ds p).isSome = true ↔ cells.length ≤ (p.free ds).card := by
  induction cells generalizing ds p with
  | nil => simp [place]
  | cons c cs ih =>
      rw [place]
      cases h : firstFree p.ues ds with
      | none => simp [firstFree_eq_none_iff.1 h]
      | some r =>
          obtain ⟨d, ds'⟩ := r
          have hr := ih ds' (p.insertNew c d)
          rw [← card_free_of_firstFree h c, List.length_cons, Nat.add_le_add_iff_right, ← hr]
          dsimp only
          cases place cs ds' (p.insertNew c d) <;> rfl

theorem exists_enough (p : Population) (ds : List Draw) (h : p.size + n ≤ capacity) :
    ∃ ds', n ≤ (p.free (ds ++ ds')).card := by
  let band : Finset Imsi := (Finset.range capacity).image Imsi.ofPlace
  let taken : Finset Imsi := p.ues.keys.toFinset
  have hband : band.card = capacity := by
    rw [Finset.card_image_of_injOn, Finset.card_range]
    intro k hk m hm he
    have hv : (Imsi.ofPlace k).val.toNat = (Imsi.ofPlace m).val.toNat := by rw [he]
    rw [Imsi.toNat_ofPlace, Imsi.toNat_ofPlace] at hv
    simp only [capacity, Finset.coe_range, Set.mem_Iio] at hk hm
    omega
  have htaken : taken.card ≤ p.size := by
    rw [size, Table.size_eq_length_keys]
    exact List.toFinset_card_le _
  refine ⟨Draw.band, ?_⟩
  have hfree : band \ taken ⊆ p.free (ds ++ Draw.band) := by
    intro i hi
    obtain ⟨hb, ht⟩ := Finset.mem_sdiff.1 hi
    obtain ⟨m, hm, rfl⟩ := Finset.mem_image.1 hb
    have hd : (⟨.ofPlace m, .zero, Imsi.inBand_ofPlace m⟩ : Draw) ∈ Draw.band :=
      List.mem_map_of_mem (List.mem_range.2 (Finset.mem_range.1 hm))
    refine mem_free.2 ⟨⟨_, List.mem_append_right _ hd, rfl⟩, ?_⟩
    rw [List.mem_toFinset, Table.mem_keys_iff] at ht
    exact Option.not_isSome_iff_eq_none.1 ht
  have hsub := Finset.card_le_card hfree
  have hsplit := Finset.card_le_card_sdiff_add_card (s := band) (t := taken)
  omega

/-- The members of `p` stay as they are, and `new` come to them, one on each of the cells. The
watchers are told of each of these once. -/
structure Grown (p : Population) (cells : List Cell) (new : List Ue) (q : Population) : Prop where
  members : q.ues.values.Perm (new ++ p.ues.values)
  placed : new.map (·.serving.ecgi) = cells.map Cell.ecgi
  fresh : ∀ u ∈ new, p.ues.get? u.imsi = none
  feeds : q.feeds = p.feeds.map (Feed.tell (new.map (.mk .added)))
  nextHandle : q.nextHandle = p.nextHandle

theorem Grown.refl (p : Population) : Grown p [] [] p where
  members := .refl _
  placed := rfl
  fresh := nofun
  feeds := (List.map_id _).symm
  nextHandle := rfl

theorem Grown.cons {c : Cell} (hd : p.ues.get? d.imsi = none)
    (h : Grown (p.insertNew c d) cells new q) :
    Grown p (c :: cells) (.fresh d.imsi p.nextCrnti (.by c.ecgi d.strength) :: new) q where
  members := by
    have hv : (p.insertNew c d).ues.values = .fresh d.imsi p.nextCrnti (.by c.ecgi d.strength) ::
        p.ues.values := Table.values_insert_of_get?_eq_none hd _
    have hm := h.members
    rw [hv] at hm
    exact hm.trans List.perm_middle
  placed := by
    rw [List.map_cons, h.placed]
    rfl
  fresh u hu := by
    rcases List.mem_cons.1 hu with rfl | hu
    · exact hd
    · have hn := h.fresh u hu
      rw [get?_insertNew] at hn
      split at hn
      · cases hn
      · exact hn
  feeds := by
    rw [h.feeds]
    exact List.map_map
  nextHandle := h.nextHandle

theorem grown_of_place {imsis : List Imsi} (h : place cells ds p = some (imsis, q)) :
    ∃ new, Grown p cells new q := by
  induction cells generalizing ds p imsis with
  | nil =>
      cases h
      exact ⟨[], .refl _⟩
  | cons c cs ih =>
      obtain ⟨d, ds', imsis', hd, -, hp⟩ := place_cons h
      obtain ⟨new, hg⟩ := ih hp
      exact ⟨_, hg.cons hd⟩

/-- The members `gone` leave and the others stay as they are. The watchers are told of each of
those once. -/
structure Shrunk (p : Population) (gone : List Ue) (q : Population) : Prop where
  members : p.ues.values.Perm (gone ++ q.ues.values)
  feeds : q.feeds = p.feeds.map (Feed.tell (gone.map (.mk .deleted)))
  nextCrnti : q.nextCrnti = p.nextCrnti
  nextHandle : q.nextHandle = p.nextHandle

theorem shrunk_discard (p : Population) (i : Imsi) : ∃ gone, Shrunk p gone (p.discard i) := by
  rw [discard, destroy]
  cases h : p.ues.get? i with
  | none => exact ⟨[], .refl _, (List.map_id _).symm, rfl, rfl⟩
  | some u => exact ⟨[u], Table.values_perm_of_get? h, rfl, rfl, rfl⟩

theorem shrunk_discardAll (is : List Imsi) (p : Population) :
    ∃ gone, Shrunk p gone (is.foldl discard p) := by
  induction is generalizing p with
  | nil => exact ⟨[], .refl _, (List.map_id _).symm, rfl, rfl⟩
  | cons i is ih =>
      obtain ⟨gone, h⟩ := shrunk_discard p i
      obtain ⟨gone', h'⟩ := ih (p.discard i)
      refine ⟨gone ++ gone', ?_, ?_, h'.nextCrnti.trans h.nextCrnti,
        h'.nextHandle.trans h.nextHandle⟩
      · rw [List.append_assoc]
        exact h.members.trans (h'.members.append_left gone)
      · rw [List.foldl_cons, h'.feeds, h.feeds, List.map_map]
        refine List.map_congr_left fun f _ => ?_
        rw [Function.comp_apply, Feed.tell, Feed.tell, Feed.tell, List.map_append,
          List.foldl_append]

theorem le_mostCells (h : p.size + n ≤ capacity) : n ≤ mostCells :=
  (Nat.le_add_left n p.size).trans (h.trans (by decide))

/-- What a call does that asks a source for `n` cells. Where there can be no room for them it has no
result. -/
structure AllOrNothing {σ : Type} (p : Population) (src : CellSource σ) (n : Nat) (s : σ)
    (call : List Draw → Option (Except RegistryError Population) × σ) : Prop where
  met : ∀ cells s', src.Gives s cells s' → cells.length = n → p.size + n ≤ capacity →
    ∀ ds, n ≤ (p.free ds).card →
      ∃ new q, call ds = (some (.ok q), s') ∧ new.length = n ∧ Grown p cells new q
  waits : ∀ cells s', src.Gives s cells s' → cells.length = n → p.size + n ≤ capacity →
    ∀ ds, (p.free ds).card < n → call ds = (none, s')
  full : n ≤ mostCells → ∀ cells s', src.Gives s cells s' → cells.length = n →
    capacity < p.size + n →
      ∀ ds, call ds = (some (.error .imsiSpaceExhausted), s') ∧ p.after (call ds).1 = p
  refused : n ≤ mostCells → ∀ cells t e s', src.Gives s cells t → cells.length < n →
    src.pick t = (.error e, s') →
      ∀ ds, call ds = (some (.error e), s') ∧ p.after (call ds).1 = p

theorem create_allOrNothing (p : Population) {σ : Type} (src : CellSource σ) (n : Nat) (s : σ) :
    AllOrNothing p src n s fun ds =>
      ((p.create src n ds s).1.map fun r => r.map Prod.snd, (p.create src n ds s).2) where
  met cells s' hg hl hn ds hd := by
    obtain ⟨⟨imsis, q⟩, hp⟩ :=
      Option.isSome_iff_exists.1 ((isSome_place_iff cells ds p).2 (hl ▸ hd))
    obtain ⟨new, h⟩ := grown_of_place hp
    refine ⟨new, q, ?_, ?_, h⟩
    · rw [create_of_le (le_mostCells hn)]
      simp [← hl, hg.gather, insertAll, Nat.not_lt.2 (hl ▸ hn), hp, Except.map]
    · rw [← List.length_map, h.placed, List.length_map, hl]
  waits cells s' hg hl hn ds hd := by
    have hp : place cells ds p = none := by
      rw [← Option.not_isSome_iff_eq_none, isSome_place_iff]
      omega
    rw [create_of_le (le_mostCells hn)]
    simp [← hl, hg.gather, insertAll, Nat.not_lt.2 (hl ▸ hn), hp]
  full hm cells s' hg hl hn ds := by
    rw [create_of_le hm]
    simp [← hl, hg.gather, insertAll, hl ▸ hn, Except.map, after]
  refused hm cells t e s' hg hl hp ds := by
    rw [create_of_le hm]
    simp [hg.gather_error hl hp, Except.map, after]

theorem setCount_of_le (h : n ≤ p.size) {σ : Type} (src : CellSource σ) (ds : List Draw)
    (order : Shuffle) (s : σ) :
    p.setCount src n ds order s = (some (.ok (p.shrink (p.size - n) order)), s) := by
  rw [setCount, adjust, if_neg (Nat.not_lt.2 h)]
  split
  · rfl
  · rename_i hn
    rw [Nat.sub_eq_zero_of_le (Nat.not_lt.1 hn)]
    rfl

theorem setCount_of_size_eq (h : p.size = n) {σ : Type} (src : CellSource σ) (ds : List Draw)
    (order : Shuffle) (s : σ) : p.setCount src n ds order s = (some (.ok p), s) := by
  rw [setCount_of_le (Nat.le_of_eq h.symm), h, Nat.sub_self]
  rfl

/-- A call that sets the size reaches it or leaves everything as it was, and so does one that
creates members. Nothing is asked of the source for a size that is not beyond the present one. -/
theorem number_met_or_untouched (p : Population) {σ : Type} (src : CellSource σ) (n : Nat)
    (order : Shuffle) (s : σ) :
    (n ≤ p.size → ∃ gone q, gone.length = p.size - n ∧ q.size = n ∧ Shrunk p gone q ∧
      ∀ (τ : Type) (src' : CellSource τ) ds t,
        p.setCount src' n ds order t = (some (.ok q), t)) ∧
    (p.size < n → AllOrNothing p src (n - p.size) s fun ds => p.setCount src n ds order s) ∧
    (AllOrNothing p src n s fun ds =>
      ((p.create src n ds s).1.map fun r => r.map Prod.snd, (p.create src n ds s).2)) ∧
    (∀ m ds, p.size + m ≤ capacity → ∃ ds', m ≤ (p.free (ds ++ ds')).card) ∧
    ∀ ds q s', p.setCount src n ds order s = (some (.ok q), s') →
      ∀ (τ : Type) (src' : CellSource τ) ds' order' t,
        q.setCount src' n ds' order' t = (some (.ok q), t) := by
  refine ⟨fun hn => ?_, fun hn => ?_, create_allOrNothing p src n s,
    fun m ds => exists_enough p ds, fun ds q s' h τ src' ds' order' t => ?_⟩
  · obtain ⟨gone, h⟩ := shrunk_discardAll ((order.apply p.ues.keys).take (p.size - n)) p
    have hq := size_shrink p (p.size - n) order
    have hl := h.members.length_eq
    rw [List.length_append, Table.values, List.length_map, Table.values, List.length_map] at hl
    change p.size = gone.length + (p.shrink (p.size - n) order).size at hl
    exact ⟨gone, p.shrink (p.size - n) order, by omega, by omega, h,
      fun τ src' ds t => setCount_of_le hn src' ds order t⟩
  · have hc := create_allOrNothing p src (n - p.size) s
    simpa only [setCount, adjust, if_pos hn] using hc
  · have hq := size_adjust (congrArg Prod.fst h)
    exact setCount_of_size_eq (by omega) src' ds' order' t

theorem number_met_or_untouched_of_two :
    let c : Cell := ⟨⟨0x11⟩, .origin, none, 99, .zero⟩
    let src : CellSource Nat :=
      ⟨fun | 0 => (.error .noCells, 0) | k + 1 => (.ok c, k), fun _ _ => true⟩
    let p := ((empty.watch 9 .default .none).2.insertNew c (.numbered 0)).insertNew c (.numbered 1)
    let call (k : Nat) := p.setCount src 4 [.numbered 1, .numbered 2, .numbered 3] .none k
    p.size = 2 ∧ (∃ gone q, gone.length = 1 ∧ q.size = 1 ∧ Shrunk p gone q) ∧
      call 1 = (some (.error .noCells), 0) ∧ p.after (call 1).1 = p ∧
      ∃ new q, call 2 = (some (.ok q), 0) ∧ new.length = 2 ∧ Grown p [c, c] new q := by
  intro c src p call
  obtain ⟨hshrink, -⟩ := number_met_or_untouched p src 1 .none 0
  obtain ⟨gone, q, hgone, hq, hs, -⟩ := hshrink (by decide)
  have hone : src.Gives 1 [c] 0 := .cons rfl .nil
  have htwo : src.Gives 2 [c, c] 0 := .cons rfl (.cons rfl .nil)
  have hgrow (k : Nat) := (number_met_or_untouched p src 4 .none k).2.1 (by decide)
  have hfail := (hgrow 1).refused (by decide) [c] 0 .noCells 0 hone (by decide) rfl
    [.numbered 1, .numbered 2, .numbered 3]
  have hdone := (hgrow 2).met [c, c] 0 htwo (by decide) (by decide)
    [.numbered 1, .numbered 2, .numbered 3] (by decide)
  exact ⟨by decide, ⟨gone, q, hgone, hq, hs⟩, hfail.1, hfail.2, hdone⟩

/-- No more members can be had than there are identities. -/
theorem number_beyond_identities_not_met :
    ¬ ∀ p : Population, p.Reached → ∀ (σ : Type) (src : CellSource σ) n s cells s', p.size < n →
      src.Gives s cells s' → cells.length = n - p.size →
        ∃ ds order new q, (p.setCount src n ds order s).1 = some (.ok q) ∧ Grown p cells new q := by
  intro h
  let c : Cell := ⟨⟨0x11⟩, .origin, none, 99, .zero⟩
  let src : CellSource Unit := ⟨fun s => (.ok c, s), fun _ _ => true⟩
  have hg (k : Nat) : src.Gives () (List.replicate k c) () := by
    induction k with
    | zero => exact .nil
    | succ k ih => exact .cons rfl ih
  have hn : empty.size < capacity + 1 := by decide
  obtain ⟨ds, order, new, q, hq, -⟩ := h empty .empty Unit src (capacity + 1) () _ () hn
    (hg (capacity + 1)) List.length_replicate
  have hf := ((create_allOrNothing empty src (capacity + 1) ()).full (by decide) _ ()
    (hg (capacity + 1)) List.length_replicate (by decide) ds).1
  rw [setCount, adjust, if_pos hn] at hq
  cases hq.symm.trans (congrArg Prod.fst hf)

end Population

end E2Node
