import E2Node.Proofs.Population.Members
import E2Node.Proofs.Population.Replica

namespace E2Node

namespace Population

/-- Only what is kept under one identity changes, of which the watchers are told. -/
structure Alters (p : Population) (i : Imsi) (u : Option Ue) (e : UeEvent) (q : Population) :
    Prop where
  ues : q.ues.get? = Function.update p.ues.get? i u
  feeds : List.Forall₂ (Feed.Hears e) p.feeds q.feeds
  nextCrnti : q.nextCrnti = p.nextCrnti
  nextHandle : q.nextHandle = p.nextHandle

/-- What may happen while nobody creates a member with a certain identity. -/
inductive Uncreated (i : Imsi) (p : Population) : Population → Prop
  | refl : Uncreated i p p
  | call {q q'} (h : Uncreated i p q) (c : Call) (hc : c.end? q = some (.ok q'))
      (hi : i ∉ c.created q) : Uncreated i p q'
  | failed {q e} (h : Uncreated i p q) (c : Call) (hc : c.end? q = some (.error e)) :
      Uncreated i p q
  | watch {q} (h : Uncreated i p q) (capacity : Nat) (o : WatchOptions) (order : Shuffle) :
      Uncreated i p (q.watch capacity o order).2
  | feeds {q} (h : Uncreated i p q) (change : Feed → Feed) :
      Uncreated i p { q with feeds := q.feeds.map change }

variable {p q q' : Population} {i : Imsi} {u : Ue} {e : UeEvent}

theorem hears_notify_all (e : UeEvent) (fs : List Feed) :
    List.Forall₂ (Feed.Hears e) fs (fs.map (Feed.notify e)) := by
  rw [List.forall₂_map_right_iff, List.forall₂_same]
  intro f _
  exact Feed.hears_notify e f

theorem move_alters {live : Ecgi → Bool} {ecgi : Ecgi} (hl : live ecgi = true)
    (hu : p.ues.get? i = some u) (strength : Binary64) :
    ∃ q, p.move live i ecgi strength = .ok q ∧
      Alters p i (some { u with serving := ⟨.ofEcgi ecgi, ecgi, strength⟩ })
        ⟨.updated, { u with serving := ⟨.ofEcgi ecgi, ecgi, strength⟩ }⟩ q := by
  rw [move, if_pos hl, hu]
  refine ⟨_, rfl, ?_, hears_notify_all _ _, rfl, rfl⟩
  funext j
  rw [Function.update_apply]
  exact Table.get?_insert _ _ _ _

theorem destroy_alters (hu : p.ues.get? i = some u) :
    ∃ q, p.destroy i = .ok (u, q) ∧ Alters p i none ⟨.deleted, u⟩ q := by
  rw [destroy, hu]
  refine ⟨_, rfl, ?_, hears_notify_all _ _, rfl, rfl⟩
  funext j
  rw [Function.update_apply]
  exact Table.get?_erase _ _ _

theorem get_eq_ok_iff : p.get i = .ok u ↔ p.ues.get? i = some u := by
  rw [get]
  split <;> simp_all

theorem get_eq_error (h : p.ues.get? i = none) : p.get i = .error (.notFound (.ue i)) := by
  rw [get, h]

theorem isSome_create_iff (h : p.ues.get? i = none) {σ : Type} {src : CellSource σ} {s : σ}
    {n : Nat} {ds : List Draw}
    (hc : (p.create src n ds s).1.map (fun r => r.map Prod.snd) = some (.ok q)) :
    (q.ues.get? i).isSome = true ↔ i ∈ made (p.create src n ds s).1 := by
  obtain ⟨cells, is, -, hp, hr⟩ := place_of_create hc
  have hi : i ∉ p.ues.keys := by
    rw [Table.mem_keys_iff, h]
    exact nofun
  rw [hr, ← Table.mem_keys_iff, (keys_place hp).1, List.mem_append, List.mem_reverse,
    or_iff_left hi]
  rfl

theorem not_isSome_discardAll (h : p.ues.get? i = none) (is : List Imsi) :
    ((is.foldl discard p).ues.get? i).isSome = true ↔ i ∈ ([] : List Imsi) := by
  rw [get?_discardAll, h]
  simp

theorem isSome_end_iff (h : p.ues.get? i = none) {c : Call} (hc : c.end? p = some (.ok q)) :
    (q.ues.get? i).isSome = true ↔ i ∈ c.created p := by
  have adjusted {σ : Type} {src : CellSource σ} {s : σ} {current n : Nat} {ds : List Draw}
      {order : Shuffle} (ha : (p.adjust src current n ds order s).1 = some (.ok q)) :
      (q.ues.get? i).isSome = true ↔
        i ∈ if current < n then made (p.create src (n - current) ds s).1 else [] := by
    rw [adjust] at ha
    split at ha
    · rename_i hn
      rw [if_pos hn]
      exact isSome_create_iff h ha
    · rename_i hn
      rw [if_neg hn]
      split at ha
      · cases ha
        exact not_isSome_discardAll h _
      · cases ha
        exact not_isSome_discardAll h []
  cases c with
  | create src s n ds => exact isSome_create_iff h hc
  | setCount | adjust => exact adjusted hc
  | destroy imsi =>
      rw [eq_discard_of_destroy (Option.some.inj hc)]
      exact not_isSome_discardAll h [imsi]
  | move live imsi ecgi strength =>
      obtain ⟨-, u, hu, hq⟩ := move_eq_ok (Option.some.inj hc)
      have hi : i ≠ imsi := by
        rintro rfl
        simp [h] at hu
      rw [hq, if_neg hi, h, Call.created]
      simp

theorem Uncreated.get?_eq_none (h : Uncreated i p q) (hp : p.ues.get? i = none) :
    q.ues.get? i = none := by
  induction h with
  | refl => exact hp
  | call _ c hc hi ih =>
      rw [← Option.not_isSome_iff_eq_none, isSome_end_iff ih hc]
      exact hi
  | failed _ _ _ ih | watch _ _ _ _ ih | feeds _ _ ih => exact ih

/-- How a member is moved or destroyed, and when it is not. -/
theorem one_member_altered (p : Population) (live : Ecgi → Bool) (i : Imsi) (ecgi : Ecgi)
    (strength : Binary64) :
    (live ecgi = false → p.move live i ecgi strength = .error (.notFound (.cell ecgi))) ∧
    (live ecgi = true → p.ues.get? i = none →
      p.move live i ecgi strength = .error (.notFound (.ue i))) ∧
    (∀ e, p.move live i ecgi strength = .error e →
      p.after (some (p.move live i ecgi strength)) = p) ∧
    (live ecgi = true → ∀ u, p.ues.get? i = some u →
      ∃ q, p.move live i ecgi strength = .ok q ∧
        Alters p i (some { u with serving := ⟨.ofEcgi ecgi, ecgi, strength⟩ })
          ⟨.updated, { u with serving := ⟨.ofEcgi ecgi, ecgi, strength⟩ }⟩ q) ∧
    (p.ues.get? i = none → p.destroy i = .error (.notFound (.ue i))) ∧
    ∀ u, p.ues.get? i = some u → ∃ q, p.destroy i = .ok (u, q) ∧ Alters p i none ⟨.deleted, u⟩ q ∧
      ∀ q', Uncreated i q q' → q'.get i = .error (.notFound (.ue i)) ∧
        ∀ (c : Call) r, c.end? q' = some (.ok r) →
          ((∃ v, r.get i = .ok v) ↔ i ∈ c.created q') := by
  refine ⟨fun hl => ?_, fun hl hu => ?_, fun e he => ?_, fun hl u hu => move_alters hl hu strength,
    fun hu => ?_, fun u hu => ?_⟩
  · rw [move, hl]
    rfl
  · rw [move, if_pos hl, hu]
  · rw [he]
    rfl
  · rw [destroy, hu]
  · obtain ⟨q, hq, ha⟩ := destroy_alters hu
    have hnone : q.ues.get? i = none := by
      rw [ha.ues]
      exact Function.update_self ..
    refine ⟨q, hq, ha, fun q' h => ?_⟩
    have hq' := h.get?_eq_none hnone
    refine ⟨get_eq_error hq', fun c r hc => ?_⟩
    rw [← isSome_end_iff hq' hc, Option.isSome_iff_exists]
    exact exists_congr fun v => get_eq_ok_iff

theorem one_member_altered_of_two :
    let c : Cell := ⟨⟨0x11⟩, .origin, none, 99, .zero⟩
    let d := Draw.numbered 0
    let p := ((empty.watch 9 .default .none).2.insertNew c d).insertNew c (.numbered 1)
    let u : Ue := .fresh d.imsi .first (.by ⟨0x11⟩ d.strength)
    let v : Ue := { u with serving := ⟨.ofEcgi ⟨0x12⟩, ⟨0x12⟩, .zero⟩ }
    p.move (fun _ => false) d.imsi ⟨0x12⟩ .zero = .error (.notFound (.cell ⟨0x12⟩)) ∧
      ∃ q r, p.move (fun _ => true) d.imsi ⟨0x12⟩ .zero = .ok q ∧
        Alters p d.imsi (some v) ⟨.updated, v⟩ q ∧ q.destroy d.imsi = .ok (v, r) ∧
        Alters q d.imsi none ⟨.deleted, v⟩ r ∧ r.get d.imsi = .error (.notFound (.ue d.imsi)) := by
  intro c d p u v
  obtain ⟨hcell, -⟩ := one_member_altered p (fun _ => false) d.imsi ⟨0x12⟩ .zero
  obtain ⟨-, -, -, hmove, -⟩ := one_member_altered p (fun _ => true) d.imsi ⟨0x12⟩ .zero
  obtain ⟨q, hq, ha⟩ := hmove rfl u (by decide)
  have hv : q.ues.get? d.imsi = some v := by
    rw [ha.ues]
    exact Function.update_self ..
  obtain ⟨-, -, -, -, -, hdestroy⟩ := one_member_altered q (fun _ => true) d.imsi ⟨0x12⟩ .zero
  obtain ⟨r, hr, ha', hgone⟩ := hdestroy v hv
  exact ⟨hcell rfl, q, r, hq, ha, hr, ha', (hgone r .refl).1⟩

/-- A watcher whose forwarder has ended is struck off when a member is moved. -/
theorem ended_watcher_struck_off :
    ¬ ∀ p : Population, p.Reached → ∀ live i ecgi strength q,
      p.move live i ecgi strength = .ok q → q.watcherCount = p.watcherCount := by
  intro h
  let c : Cell := ⟨⟨0x11⟩, .origin, none, 99, .zero⟩
  let src : CellSource Unit := ⟨fun s => (.ok c, s), fun _ _ => true⟩
  let d := Draw.numbered 0
  have hp := ((Reached.empty.watch 9 .default .none).feeds Feed.dropReceiver fun _ => rfl).call
    (.create src () 1 [d]) rfl
  have hs := hp.feeds Feed.settle Feed.handle_settle
  have hq := h _ hs (fun _ => true) d.imsi ⟨0x12⟩ .zero _ rfl
  revert hq
  decide

end Population

end E2Node
