import E2Node.Proofs.Population.Feeds
import Mathlib.Algebra.Group.Nat.Defs
import Mathlib.Data.List.Nodup

namespace E2Node

def Ue.Is (u v : Ue) : Prop := ∃ serving, v = { u with serving := serving }

namespace Population

/-- The populations there can be, with all members that were ever created, as they were after the
call that created them. Calls may fail, and watchers and forwarders may do anything to the feeds. -/
inductive Lived : List Ue → Population → Prop
  | empty : Lived [] empty
  | call {born p q} (hl : Lived born p) (c : Call) (hc : c.end? p = some (.ok q)) :
      Lived (born ++ (c.created p).filterMap q.ues.get?) q
  | failed {born p e} (hl : Lived born p) (c : Call) (hc : c.end? p = some (.error e)) :
      Lived born p
  | watch {born p} (hl : Lived born p) (capacity : Nat) (o : WatchOptions) (order : Shuffle) :
      Lived born (p.watch capacity o order).2
  | unwatch {born p} (hl : Lived born p) (h : WatchHandle) : Lived born (p.unwatch h).2
  | feeds {born p} (hl : Lived born p) (change : Feed → Feed) :
      Lived born { p with feeds := p.feeds.map change }

structure Member (born : List Ue) (i : Imsi) (u : Ue) : Prop where
  imsi : u.imsi = i
  inBand : i.InBand
  node : u.serving.node = .ofEcgi u.serving.ecgi
  birth : ∃ (k : Nat) (b : Ue), born[k]? = some b ∧ b.Is u ∧
    ∀ (k' : Nat) (b' : Ue), k < k' → born[k']? = some b' → b'.imsi ≠ i

structure Sound (born : List Ue) (p : Population) : Prop where
  members : ∀ i u, p.ues.get? i = some u → Member born i u
  numbers : ∀ (k : Nat) (b : Ue), born[k]? = some b → b.crnti.val.toNat = (90125 + k) % 2 ^ 32
  next : p.nextCrnti.val.toNat = (90125 + born.length) % 2 ^ 32

structure Leads (born : List Ue) (p : Population) (created : List Imsi) (q : Population) :
    Prop where
  sound : Sound (born ++ created.filterMap q.ues.get?) q
  found : (created.filterMap q.ues.get?).map Ue.imsi = created
  kept : ∀ i u, p.ues.get? i = some u →
    q.ues.get? i = none ∨ ∃ v, q.ues.get? i = some v ∧ u.Is v

variable {born : List Ue} {p q : Population} {i j : Imsi} {u v b : Ue}

theorem Member.move (h : Member born i u) (ecgi : Ecgi) (strength : Binary64) :
    Member born i { u with serving := .by ecgi strength } where
  imsi := h.imsi
  inBand := h.inBand
  node := rfl
  birth := by
    obtain ⟨k, b, hk, ⟨serving, rfl⟩, hl⟩ := h.birth
    exact ⟨k, b, hk, ⟨_, rfl⟩, hl⟩

theorem of_getElem?_concat {k : Nat} (h : (born ++ [b])[k]? = some u) :
    born[k]? = some u ∨ k = born.length ∧ u = b := by
  rw [List.getElem?_append, List.getElem?_singleton] at h
  split at h
  · exact .inl h
  · split at h
    · cases h
      exact .inr ⟨by omega, rfl⟩
    · cases h

theorem Member.grow (h : Member born i u) (hb : b.imsi ≠ i) : Member (born ++ [b]) i u where
  imsi := h.imsi
  inBand := h.inBand
  node := h.node
  birth := by
    obtain ⟨k, b', hk, hi, hl⟩ := h.birth
    obtain ⟨hlt, -⟩ := List.getElem?_eq_some_iff.1 hk
    refine ⟨k, b', by rwa [List.getElem?_append_left hlt], hi, fun k' c hlt' hc => ?_⟩
    rcases of_getElem?_concat hc with hc | ⟨-, rfl⟩
    · exact hl k' c hlt' hc
    · exact hb

theorem Member.fresh (d : Draw) (crnti : Crnti) (ecgi : Ecgi) :
    Member (born ++ [.fresh d.imsi crnti (.by ecgi d.strength)]) d.imsi
      (.fresh d.imsi crnti (.by ecgi d.strength)) where
  imsi := rfl
  inBand := d.inBand
  node := rfl
  birth := by
    refine ⟨born.length, _, List.getElem?_concat_length, ⟨_, rfl⟩, fun k' c hlt hc => ?_⟩
    rcases of_getElem?_concat hc with hc | ⟨he, -⟩
    · obtain ⟨hlt', -⟩ := List.getElem?_eq_some_iff.1 hc
      omega
    · omega

theorem Sound.insertNew (h : Sound born p) (c : Cell) (d : Draw) :
    Sound (born ++ [.fresh d.imsi p.nextCrnti (.by c.ecgi d.strength)]) (p.insertNew c d) where
  members i u hu := by
    rw [get?_insertNew] at hu
    split at hu
    · rename_i hi
      cases hu
      rw [hi]
      exact .fresh d _ _
    · rename_i hi
      exact (h.members i u hu).grow (Ne.symm hi)
  numbers k b hb := by
    rcases of_getElem?_concat hb with hb | ⟨rfl, rfl⟩
    · exact h.numbers k b hb
    · exact h.next
  next := by
    have hn := h.next
    change (p.nextCrnti.val + 1).toNat = _
    rw [UInt32.toNat_add, hn, List.length_append, List.length_singleton]
    change ((90125 + born.length) % 2 ^ 32 + 1) % 2 ^ 32 = _
    omega

theorem Leads.none (h : Sound born q) (hk : ∀ i u, p.ues.get? i = some u →
    q.ues.get? i = none ∨ ∃ v, q.ues.get? i = some v ∧ u.Is v) : Leads born p [] q where
  sound := by rwa [List.filterMap_nil, List.append_nil]
  found := rfl
  kept := hk

theorem Sound.place (h : Sound born p) {cells : List Cell} {ds : List Draw} {imsis : List Imsi}
    (hp : place cells ds p = some (imsis, q)) :
    Sound (born ++ imsis.filterMap q.ues.get?) q ∧
      (imsis.filterMap q.ues.get?).map Ue.imsi = imsis := by
  induction cells generalizing born ds p imsis with
  | nil =>
      cases hp
      exact ⟨by rwa [List.filterMap_nil, List.append_nil], rfl⟩
  | cons c cs ih =>
      obtain ⟨d, ds', imsis', -, rfl, hr⟩ := place_cons hp
      obtain ⟨hs, hf⟩ := ih (h.insertNew c d) hr
      have hnew := get?_of_place hr ((get?_insertNew p c d d.imsi).trans (if_pos rfl))
      rw [List.filterMap_cons_some hnew]
      refine ⟨?_, ?_⟩
      · rwa [List.append_assoc] at hs
      · rw [List.map_cons, hf]
        rfl

theorem Sound.create (h : Sound born p) {σ : Type} {src : CellSource σ} {s : σ} {n : Nat}
    {ds : List Draw}
    (hc : (p.create src n ds s).1.map (fun r => r.map Prod.snd) = some (.ok q)) :
    Leads born p (made (p.create src n ds s).1) q := by
  obtain ⟨cells, imsis, -, hp, hr⟩ := place_of_create hc
  obtain ⟨hs, hf⟩ := h.place hp
  rw [hr]
  exact ⟨hs, hf, fun i u hu => .inr ⟨u, get?_of_place hp hu, u.serving, rfl⟩⟩

theorem Sound.sub (h : Sound born p)
    (hu : ∀ i u, q.ues.get? i = some u → p.ues.get? i = some u)
    (hn : q.nextCrnti = p.nextCrnti) : Sound born q where
  members i u hi := h.members i u (hu i u hi)
  numbers := h.numbers
  next := by rw [hn]; exact h.next

theorem nextCrnti_discard (p : Population) (i : Imsi) :
    (p.discard i).nextCrnti = p.nextCrnti := by
  rw [discard, destroy]
  cases p.ues.get? i <;> rfl

theorem get?_discardAll (is : List Imsi) (p : Population) (j : Imsi) :
    (is.foldl discard p).ues.get? j = if j ∈ is then none else p.ues.get? j := by
  induction is generalizing p with
  | nil => simp
  | cons i is ih =>
      rw [List.foldl_cons, ih, get?_discard]
      by_cases hj : j ∈ is <;> by_cases hi : j = i <;> simp [hj, hi]

theorem nextCrnti_discardAll (is : List Imsi) (p : Population) :
    (is.foldl discard p).nextCrnti = p.nextCrnti := by
  induction is generalizing p with
  | nil => rfl
  | cons i is ih => rw [List.foldl_cons, ih, nextCrnti_discard]

theorem Sound.discardAll (h : Sound born p) (is : List Imsi) :
    Leads born p [] (is.foldl discard p) := by
  refine .none (h.sub (fun i u hu => ?_) (nextCrnti_discardAll is p)) fun i u hu => ?_
  · rw [get?_discardAll] at hu
    split at hu
    · cases hu
    · exact hu
  · rw [get?_discardAll]
    split
    · exact .inl rfl
    · exact .inr ⟨u, hu, u.serving, rfl⟩

theorem Sound.adjust (h : Sound born p) {σ : Type} {src : CellSource σ} {s : σ} {current n : Nat}
    {ds : List Draw} {order : Shuffle}
    (hc : (p.adjust src current n ds order s).1 = some (.ok q)) :
    Leads born p (if current < n then made (p.create src (n - current) ds s).1 else []) q := by
  rw [Population.adjust] at hc
  split at hc
  · rename_i hlt
    rw [if_pos hlt]
    exact h.create hc
  · rename_i hlt
    rw [if_neg hlt]
    split at hc
    · cases hc
      exact h.discardAll _
    · cases hc
      exact h.discardAll []

theorem Sound.move (h : Sound born p) {live : Ecgi → Bool} {ecgi : Ecgi} {strength : Binary64}
    (hc : p.move live i ecgi strength = .ok q) : Leads born p [] q := by
  rw [Population.move] at hc
  split at hc
  · split at hc
    · cases hc
    · rename_i u hu
      cases hc
      have hget (j : Imsi) := Table.get?_insert p.ues i j { u with serving := .by ecgi strength }
      refine .none ⟨fun j v hv => ?_, h.numbers, h.next⟩ fun j v hv => .inr ?_
      · have hv' := (hget j).symm.trans hv
        split at hv'
        · rename_i hj
          cases hv'
          rw [hj]
          exact (h.members i u hu).move ecgi strength
        · exact h.members j v hv'
      · by_cases hj : j = i
        · subst j
          cases hu.symm.trans hv
          exact ⟨_, (hget i).trans (if_pos rfl), _, rfl⟩
        · exact ⟨v, ((hget j).trans (if_neg hj)).trans hv, v.serving, rfl⟩
  · cases hc

theorem Sound.call (h : Sound born p) {c : Call} (hc : c.end? p = some (.ok q)) :
    Leads born p (c.created p) q := by
  cases c with
  | create => exact h.create hc
  | setCount | adjust => exact h.adjust hc
  | destroy imsi =>
      rw [eq_discard_of_destroy (Option.some.inj hc)]
      exact h.discardAll [imsi]
  | move => exact h.move (Option.some.inj hc)

theorem Lived.sound (h : Lived born p) : Sound born p := by
  induction h with
  | empty => exact ⟨nofun, nofun, rfl⟩
  | call _ c hc ih => exact (ih.call hc).sound
  | failed _ _ _ ih => exact ih
  | watch _ _ _ _ ih | unwatch _ _ ih | feeds _ _ ih => exact ih.sub (fun _ _ => id) rfl

theorem Sound.eq_of_crnti (h : Sound born p) (hn : born.length ≤ 2 ^ 32)
    (hi : p.ues.get? i = some u) (hj : p.ues.get? j = some v) (hc : u.crnti = v.crnti) : i = j := by
  obtain ⟨k, b, hk, ⟨_, rfl⟩, -⟩ := (h.members i u hi).birth
  obtain ⟨k', b', hk', ⟨_, rfl⟩, -⟩ := (h.members j v hj).birth
  have hb := h.numbers k b hk
  have hb' := h.numbers k' b' hk'
  obtain ⟨hlt, -⟩ := List.getElem?_eq_some_iff.1 hk
  obtain ⟨hlt', -⟩ := List.getElem?_eq_some_iff.1 hk'
  dsimp only at hc
  rw [hc, hb'] at hb
  have he : k = k' := by omega
  subst k'
  cases hk.symm.trans hk'
  rw [← (h.members i _ hi).imsi, ← (h.members j _ hj).imsi]

theorem Sound.imsis_nodup (h : Sound born p) : (p.ues.values.map Ue.imsi).Nodup := by
  rw [Table.map_values_eq_keys fun i u hu => (h.members i u hu).imsi]
  exact p.ues.distinct

theorem Sound.crntis_nodup (h : Sound born p) (hn : born.length ≤ 2 ^ 32) :
    (p.ues.values.map Ue.crnti).Nodup := by
  rw [Table.values, List.map_map]
  refine List.Nodup.map_on (fun e he f hf hc => ?_) (List.Nodup.of_map _ p.ues.distinct)
  have hi := h.eq_of_crnti hn (Table.get?_of_mem he) (Table.get?_of_mem hf) hc
  have hs := Table.get?_of_mem he
  rw [hi, Table.get?_of_mem hf] at hs
  exact Prod.ext hi (Option.some.inj hs).symm

/-- Each member has its own identity within the band, the node of its serving cell, and for the
rest what it was created with. The numbers of all that were ever created follow one another and
come round; no two members have the same before that. A call returns the identities of those it
creates, and changes nothing of the others it leaves but the cell that serves them. -/
theorem members_traced (h : Lived born p) :
    (∀ i u, p.ues.get? i = some u → Member born i u) ∧
    (p.ues.values.map Ue.imsi).Nodup ∧
    (∀ (k : Nat) (b : Ue), born[k]? = some b → b.crnti.val.toNat = (90125 + k) % 2 ^ 32) ∧
    (born.length ≤ 2 ^ 32 → (p.ues.values.map Ue.crnti).Nodup) ∧
    ∀ (c : Call) q, c.end? p = some (.ok q) →
      ((c.created p).filterMap q.ues.get?).map Ue.imsi = c.created p ∧
      ∀ i u, p.ues.get? i = some u →
        q.ues.get? i = none ∨ ∃ v, q.ues.get? i = some v ∧ u.Is v := by
  have hs := h.sound
  refine ⟨hs.members, hs.imsis_nodup, hs.numbers, hs.crntis_nodup, fun c q hc => ?_⟩
  have hl := hs.call hc
  exact ⟨hl.found, hl.kept⟩

theorem reused_identity_traced :
    let d := Draw.numbered 0
    ∃ born q, Lived born q ∧ born.map Ue.imsi = [d.imsi, (Draw.numbered 1).imsi, d.imsi] ∧
      born.map Ue.crnti = [⟨90125⟩, ⟨90126⟩, ⟨90127⟩] ∧
      (∃ u, q.ues.get? d.imsi = some u ∧ u.crnti = ⟨90127⟩ ∧ Member born d.imsi u) ∧
      (q.ues.values.map Ue.crnti).Nodup := by
  intro d
  let c : Cell := ⟨⟨0x11⟩, .origin, none, 99, .zero⟩
  let src : CellSource Unit := ⟨fun s => (.ok c, s), fun _ _ => true⟩
  let d' := Draw.numbered 1
  let p₁ := (empty.insertNew c d).insertNew c d'
  let p₂ := ((p₁.move (fun _ => true) d.imsi ⟨0x12⟩ .zero).toOption).getD p₁
  let p₃ := p₂.discard d.imsi
  have h₁ := Lived.empty.call (q := p₁) (.create src () 2 [d, d']) rfl
  have h₂ := (h₁.failed (.destroy ⟨1⟩) rfl).call (q := p₂)
    (.move (fun _ => true) d.imsi ⟨0x12⟩ .zero) rfl
  have h₃ := h₂.call (q := p₃) (.destroy d.imsi) rfl
  have h₄ := h₃.call (q := p₃.insertNew c d) (.setCount src () 2 [d', d] .none) rfl
  obtain ⟨hm, -, -, hn, -⟩ := members_traced h₄
  exact ⟨_, _, h₄, by decide, by decide, ⟨_, rfl, by decide, hm _ _ rfl⟩, hn (by decide)⟩

end Population

end E2Node
