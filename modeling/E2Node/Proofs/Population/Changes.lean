import E2Node.Population.Basic
import Mathlib.Data.List.Basic
import Mathlib.Logic.Function.Basic

namespace E2Node

def UeEvent.left? (e : UeEvent) : Option Ue :=
  match e.change with
  | .present | .added | .updated => some e.ue
  | .deleted => none

theorem UeEvent.eq_of_left? {e : UeEvent} {u : Ue} (h : e.left? = some u) : u = e.ue := by
  rw [left?] at h
  split at h <;> cases h <;> rfl

def Feed.tell (es : List UeEvent) (f : Feed) : Feed := es.foldl (fun f e => f.notify e) f

/-- The members as a watcher knows them. -/
abbrev Replica := Imsi → Option Ue

namespace Replica

def empty : Replica := fun _ => none

def apply (r : Replica) (e : UeEvent) : Replica := Function.update r e.ue.imsi e.left?

/-- A change that can be made: only members are moved or destroyed, and one that is destroyed is
told as it was last. -/
def Allows (r : Replica) (e : UeEvent) : Prop :=
  match e.change with
  | .present => False
  | .added => r e.ue.imsi = none
  | .updated => (r e.ue.imsi).isSome = true
  | .deleted => r e.ue.imsi = some e.ue

def AllowsAll : Replica → List UeEvent → Prop
  | _, [] => True
  | r, e :: es => r.Allows e ∧ AllowsAll (r.apply e) es

theorem allowsAll_append {r : Replica} {es fs : List UeEvent} :
    r.AllowsAll (es ++ fs) ↔ r.AllowsAll es ∧ AllowsAll (es.foldl apply r) fs := by
  induction es generalizing r with
  | nil => simp [AllowsAll]
  | cons e es ih => simp only [List.cons_append, AllowsAll, List.foldl_cons, ih, and_assoc]

end Replica

namespace Population

def Keyed (p : Population) : Prop := ∀ i u, p.ues.get? i = some u → u.imsi = i

structure Changes (p : Population) (e : UeEvent) (q : Population) : Prop where
  allowed : Replica.Allows p.ues.get? e
  ues : q.ues.get? = Replica.apply p.ues.get? e
  feeds : q.feeds = p.feeds.map (Feed.notify e)
  nextHandle : q.nextHandle = p.nextHandle

inductive Told (p : Population) : List UeEvent → Population → Prop
  | refl : Told p [] p
  | tail {es e q q'} (h : Told p es q) (hc : Changes q e q') : Told p (es ++ [e]) q'

variable {p q q' : Population} {e : UeEvent} {es fs : List UeEvent} {i : Imsi} {ue : Ue}

theorem Changes.keyed (hc : Changes p e q) (h : p.Keyed) : q.Keyed := by
  intro i u hu
  rw [hc.ues, Replica.apply, Function.update_apply] at hu
  split at hu
  · rw [UeEvent.eq_of_left? hu, ‹i = _›]
  · exact h i u hu

namespace Told

theorem single (h : Changes p e q) : Told p [e] q := .tail .refl h

theorem trans (h : Told p es q) (h' : Told q fs q') : Told p (es ++ fs) q' := by
  induction h' with
  | refl => rwa [List.append_nil]
  | tail _ hc ih =>
      rw [← List.append_assoc]
      exact ih.tail hc

theorem keyed (h : Told p es q) (hp : p.Keyed) : q.Keyed := by
  induction h with
  | refl => exact hp
  | tail _ hc ih => exact hc.keyed ih

theorem nextHandle (h : Told p es q) : q.nextHandle = p.nextHandle := by
  induction h with
  | refl => rfl
  | tail _ hc ih => exact hc.nextHandle.trans ih

theorem ues (h : Told p es q) : es.foldl Replica.apply p.ues.get? = q.ues.get? := by
  induction h with
  | refl => rfl
  | tail _ hc ih => rw [List.foldl_append, ih, hc.ues]; rfl

theorem allowsAll (h : Told p es q) : Replica.AllowsAll p.ues.get? es := by
  induction h with
  | refl => trivial
  | tail h hc ih =>
      rw [Replica.allowsAll_append, h.ues]
      exact ⟨ih, hc.allowed, trivial⟩

theorem feeds (h : Told p es q) : q.feeds = p.feeds.map (Feed.tell es) := by
  induction h with
  | refl => exact (List.map_id _).symm
  | tail _ hc ih =>
      rw [hc.feeds, ih, List.map_map]
      refine List.map_congr_left fun f _ => ?_
      rw [Feed.tell, List.foldl_append]
      rfl

end Told

def about (p : Population) (change : UeChange) (is : List Imsi) : List UeEvent :=
  is.filterMap fun i => (p.ues.get? i).map (UeEvent.mk change)

variable {change : UeChange} {is : List Imsi}

theorem about_cons_of_some (h : p.ues.get? i = some ue) :
    p.about change (i :: is) = ⟨change, ue⟩ :: p.about change is :=
  List.filterMap_cons_some (by rw [h]; rfl)

theorem about_cons_of_none (h : p.ues.get? i = none) :
    p.about change (i :: is) = p.about change is :=
  List.filterMap_cons_none (by rw [h]; rfl)

theorem about_congr (h : ∀ i ∈ is, p.ues.get? i = q.ues.get? i) :
    p.about change is = q.about change is :=
  List.filterMap_congr fun i hi => by rw [h i hi]

theorem changes_insertNew (c : Cell) {d : Draw} (h : p.ues.get? d.imsi = none) :
    Changes p ⟨.added, .fresh d.imsi p.nextCrnti (.by c.ecgi d.strength)⟩ (p.insertNew c d) where
  allowed := h
  ues := by
    funext i
    rw [Replica.apply, Function.update_apply]
    exact Table.get?_insert _ _ _ _
  feeds := rfl
  nextHandle := rfl

theorem firstFree_eq_some {ues : Table Imsi Ue} {ds ds' : List Draw} {d : Draw}
    (h : firstFree ues ds = some (d, ds')) : ues.get? d.imsi = none := by
  induction ds with
  | nil => cases h
  | cons x xs ih =>
      rw [firstFree] at h
      split at h
      · exact ih h
      · rename_i hx
        cases h
        simpa [Table.contains] using hx

theorem get?_insertNew (p : Population) (c : Cell) (d : Draw) (i : Imsi) :
    (p.insertNew c d).ues.get? i = if i = d.imsi then
      some (.fresh d.imsi p.nextCrnti (.by c.ecgi d.strength)) else p.ues.get? i :=
  Table.get?_insert _ _ _ _

theorem place_cons {c : Cell} {cs : List Cell} {ds : List Draw} {imsis : List Imsi}
    (h : place (c :: cs) ds p = some (imsis, q)) :
    ∃ d ds' imsis', p.ues.get? d.imsi = none ∧ imsis = d.imsi :: imsis' ∧
      place cs ds' (p.insertNew c d) = some (imsis', q) := by
  rw [place] at h
  cases hd : firstFree p.ues ds with
  | none => simp [hd] at h
  | some r =>
      simp only [hd] at h
      cases hp : place cs r.2 (p.insertNew c r.1) with
      | none => simp [hp] at h
      | some r' =>
          simp only [hp, Option.some.injEq, Prod.mk.injEq] at h
          obtain ⟨rfl, rfl⟩ := h
          exact ⟨r.1, r.2, r'.1, firstFree_eq_some hd, rfl, hp⟩

theorem get?_of_place {cells : List Cell} {ds : List Draw} {imsis : List Imsi}
    (h : place cells ds p = some (imsis, q)) (hi : p.ues.get? i = some ue) :
    q.ues.get? i = some ue := by
  induction cells generalizing ds p imsis with
  | nil =>
      cases h
      exact hi
  | cons c cs ih =>
      obtain ⟨d, ds', imsis', hfree, -, hp⟩ := place_cons h
      refine ih hp ?_
      rw [get?_insertNew, if_neg, hi]
      rintro rfl
      simp [hfree] at hi

theorem told_place {cells : List Cell} {ds : List Draw} {imsis : List Imsi}
    (h : place cells ds p = some (imsis, q)) : Told p (q.about .added imsis) q := by
  induction cells generalizing ds p imsis with
  | nil =>
      cases h
      exact .refl
  | cons c cs ih =>
      obtain ⟨d, ds', imsis', hfree, rfl, hp⟩ := place_cons h
      have hd := get?_of_place hp ((get?_insertNew p c d d.imsi).trans (if_pos rfl))
      rw [about_cons_of_some hd]
      exact (Told.single (changes_insertNew c hfree)).trans (ih hp)

theorem changes_destroy (hp : p.Keyed) (h : p.destroy i = .ok (ue, q)) :
    Changes p ⟨.deleted, ue⟩ q := by
  rw [destroy] at h
  split at h
  · cases h
  · rename_i u hu
    cases h
    have hi := hp i ue hu
    refine ⟨?_, ?_, rfl, rfl⟩
    · simp only [Replica.Allows, hi]
      exact hu
    · funext j
      rw [Replica.apply, Function.update_apply, hi]
      exact Table.get?_erase _ _ _

theorem get?_discard (p : Population) (i j : Imsi) :
    (p.discard i).ues.get? j = if j = i then none else p.ues.get? j := by
  rw [discard, destroy]
  cases hu : p.ues.get? i with
  | none =>
      by_cases hj : j = i
      · rw [if_pos hj, hj]
        exact hu
      · rw [if_neg hj]
  | some u => exact Table.get?_erase _ _ _

theorem told_discard (hp : p.Keyed) (i : Imsi) :
    Told p (p.about .deleted [i]) (p.discard i) := by
  cases hu : p.ues.get? i with
  | none =>
      rw [about_cons_of_none hu, discard, destroy, hu]
      exact .refl
  | some ue =>
      have hd : p.destroy i = .ok (ue, p.discard i) := by rw [discard, destroy, hu]
      rw [about_cons_of_some hu]
      exact .single (changes_destroy hp hd)

theorem told_discardAll (hp : p.Keyed) (hn : is.Nodup) :
    Told p (p.about .deleted is) (is.foldl discard p) := by
  induction is generalizing p with
  | nil => exact .refl
  | cons i is ih =>
      obtain ⟨hi, hn⟩ := List.nodup_cons.1 hn
      have ht := told_discard hp i
      have hrest : (p.discard i).about .deleted is = p.about .deleted is := by
        refine about_congr fun j hj => ?_
        rw [get?_discard, if_neg]
        rintro rfl
        exact hi hj
      have hall : p.about .deleted (i :: is) = p.about .deleted [i] ++ p.about .deleted is :=
        List.filterMap_append (l := [i])
      rw [hall, ← hrest]
      exact ht.trans (ih (ht.keyed hp) hn)

theorem move_eq_ok {live : Ecgi → Bool} {ecgi : Ecgi} {strength : Binary64}
    (h : p.move live i ecgi strength = .ok q) :
    live ecgi = true ∧ ∃ u, p.ues.get? i = some u ∧ ∀ j, q.ues.get? j =
      if j = i then some { u with serving := .by ecgi strength } else p.ues.get? j := by
  rw [move] at h
  split at h
  · rename_i hl
    split at h
    · cases h
    · rename_i u hu
      cases h
      exact ⟨hl, u, hu, fun j => Table.get?_insert _ _ _ _⟩
  · cases h

theorem told_move {live : Ecgi → Bool} {ecgi : Ecgi} {strength : Binary64} (hp : p.Keyed)
    (h : p.move live i ecgi strength = .ok q) : Told p (q.about .updated [i]) q := by
  rw [move] at h
  split at h
  · split at h
    · cases h
    · rename_i u hu
      cases h
      have hi := hp i u hu
      rw [about_cons_of_some ((Table.get?_insert _ _ _ _).trans (if_pos rfl))]
      refine .single ⟨?_, ?_, rfl, rfl⟩
      · simp only [Replica.Allows, hi, hu, Option.isSome_some]
      · funext j
        rw [Replica.apply, Function.update_apply, hi]
        exact Table.get?_insert _ _ _ _
  · cases h

/-- A call that may change the population, with all that it leaves to chance. -/
inductive Call
  | create {σ : Type} (src : CellSource σ) (s : σ) (n : Nat) (ds : List Draw)
  | setCount {σ : Type} (src : CellSource σ) (s : σ) (n : Nat) (ds : List Draw) (order : Shuffle)
  | adjust {σ : Type} (src : CellSource σ) (s : σ) (current n : Nat) (ds : List Draw)
      (order : Shuffle)
  | destroy (imsi : Imsi)
  | move (live : Ecgi → Bool) (imsi : Imsi) (ecgi : Ecgi) (strength : Binary64)

def Call.end? (p : Population) : Call → Option (Except RegistryError Population)
  | create src s n ds => (p.create src n ds s).1.map fun r => r.map Prod.snd
  | setCount src s n ds order => (p.setCount src n ds order s).1
  | adjust src s current n ds order => (p.adjust src current n ds order s).1
  | destroy imsi => some ((p.destroy imsi).map Prod.snd)
  | move live imsi ecgi strength => some (p.move live imsi ecgi strength)

def after (p : Population) : Option (Except RegistryError Population) → Population
  | some (.ok q) => q
  | some (.error _) | none => p

theorem create_of_le {σ : Type} {src : CellSource σ} {s : σ} {n : Nat} {ds : List Draw}
    (h : n ≤ mostCells) :
    p.create src n ds s = match src.gather n s with
      | (.error e, s) => (some (.error e), s)
      | (.ok cells, s) => (p.insertAll cells ds, s) := if_neg (Nat.not_lt.2 h)

theorem place_of_create {σ : Type} {src : CellSource σ} {s : σ} {n : Nat} {ds : List Draw}
    (h : (p.create src n ds s).1.map (fun r => r.map Prod.snd) = some (.ok q)) :
    ∃ cells imsis, (src.gather n s).1 = .ok cells ∧ place cells ds p = some (imsis, q) ∧
      (p.create src n ds s).1 = some (.ok (imsis, q)) := by
  by_cases hm : n ≤ mostCells
  · rw [create_of_le hm] at h ⊢
    split at h
    · cases h
    · rename_i cells s' hg
      rw [insertAll] at h ⊢
      split at h
      · cases h
      · rename_i hn
        rw [Option.map_map] at h
        obtain ⟨⟨imsis, q'⟩, hr, he⟩ := Option.map_eq_some_iff.1 h
        cases he
        exact ⟨cells, imsis, by rw [hg], hr, by rw [if_neg hn, hr]; rfl⟩
  · rw [create, if_pos (Nat.lt_of_not_le hm)] at h
    cases h

def made : Option (Except RegistryError (List Imsi × Population)) → List Imsi
  | some (.ok (imsis, _)) => imsis
  | _ => []

def Call.created (p : Population) : Call → List Imsi
  | create src s n ds => made (p.create src n ds s).1
  | setCount src s n ds _ => if p.size < n then made (p.create src (n - p.size) ds s).1 else []
  | adjust src s current n ds _ =>
      if current < n then made (p.create src (n - current) ds s).1 else []
  | destroy _ | move .. => []

def Call.destroyed (p : Population) : Call → List Imsi
  | setCount _ _ n _ order => (order.apply p.ues.keys).take (p.size - n)
  | adjust _ _ current n _ order => (order.apply p.ues.keys).take (current - n)
  | destroy imsi => [imsi]
  | create .. | move .. => []

def Call.moved : Call → List Imsi
  | move _ imsi _ _ => [imsi]
  | create .. | setCount .. | adjust .. | destroy _ => []

/-- What the watchers are told of a call that leads from `p` to `q`. -/
def Call.events (p q : Population) (c : Call) : List UeEvent :=
  q.about .added (c.created p) ++ p.about .deleted (c.destroyed p) ++ q.about .updated c.moved

theorem told_create {σ : Type} {src : CellSource σ} {s : σ} {n : Nat} {ds : List Draw}
    (h : (p.create src n ds s).1.map (fun r => r.map Prod.snd) = some (.ok q)) :
    Told p (q.about .added (made (p.create src n ds s).1)) q := by
  obtain ⟨cells, imsis, -, hp, hr⟩ := place_of_create h
  rw [hr]
  exact told_place hp

theorem told_adjust (hp : p.Keyed) {σ : Type} {src : CellSource σ} {s : σ} {current n : Nat}
    {ds : List Draw} {order : Shuffle}
    (h : (p.adjust src current n ds order s).1 = some (.ok q)) :
    Told p ((Call.adjust src s current n ds order).events p q) q := by
  have hn : ((order.apply p.ues.keys).take (current - n)).Nodup :=
    ((order.perm _).nodup_iff.2 p.ues.distinct).sublist (List.take_sublist _ _)
  rw [adjust] at h
  simp only [Call.events, Call.created, Call.destroyed, Call.moved, about, List.filterMap_nil,
    List.append_nil]
  split at h
  · rename_i hlt
    rw [if_pos hlt, Nat.sub_eq_zero_of_le (Nat.le_of_lt hlt), List.take_zero, List.filterMap_nil,
      List.append_nil]
    exact told_create h
  · rename_i hlt
    rw [if_neg hlt, List.filterMap_nil, List.nil_append]
    split at h
    · cases h
      exact told_discardAll hp hn
    · rename_i hgt
      cases h
      rw [Nat.sub_eq_zero_of_le (Nat.not_lt.1 hgt), List.take_zero]
      exact .refl

theorem eq_discard_of_destroy (h : (p.destroy i).map Prod.snd = .ok q) : q = p.discard i := by
  rw [discard]
  cases hd : p.destroy i with
  | error e => simp [hd, Except.map] at h
  | ok r =>
      simp only [hd, Except.map, Except.ok.injEq] at h
      exact h.symm

theorem told_end (hp : p.Keyed) {c : Call} (h : c.end? p = some (.ok q)) :
    Told p (c.events p q) q := by
  cases c with
  | create src s n ds =>
      have ht : Told p (q.about .added (made (p.create src n ds s).1)) q := told_create h
      simpa [Call.events, Call.created, Call.destroyed, Call.moved, about] using ht
  | setCount | adjust => exact told_adjust hp h
  | destroy imsi =>
      have hq := eq_discard_of_destroy (Option.some.inj h)
      have ht := told_discard hp imsi
      rw [← hq] at ht
      simpa [Call.events, Call.created, Call.destroyed, Call.moved, about] using ht
  | move live imsi ecgi strength =>
      have ht := told_move hp (Option.some.inj h)
      simpa [Call.events, Call.created, Call.destroyed, Call.moved, about] using ht

end Population

end E2Node
