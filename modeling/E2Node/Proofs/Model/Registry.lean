import E2Node.Model.Service
import Mathlib.Data.List.Nodup
import Mathlib.Data.List.Sort

namespace E2Node.ModelRegistry

variable {σ : Type} {r r' : ModelRegistry σ} {m x : ServiceModel σ} {ms ms' : List (ServiceModel σ)}
  {id : RanFunctionId} {n : Nat}

def enlist (r : ModelRegistry σ) (m : ServiceModel σ) : ModelRegistry σ :=
  match r.register m with
  | .ok r' => r'
  | .error _ => r

def registered (ms : List (ServiceModel σ)) : ModelRegistry σ := ms.foldl enlist empty

/-- The call at a place of the sequence is the first one for the function of its model. -/
def KeptAt (ms : List (ServiceModel σ)) (n : Nat) (m : ServiceModel σ) : Prop :=
  ms[n]? = some m ∧ m.id ∉ (ms.take n).map ServiceModel.id

theorem find?_id_eq_some_iff (hn : (ms.map ServiceModel.id).Nodup) :
    (ms.find? fun m => m.id = id) = some m ↔ m ∈ ms ∧ m.id = id := by
  constructor
  · intro h
    exact ⟨List.mem_of_find?_eq_some h, by simpa using List.find?_some h⟩
  · rintro ⟨hm, rfl⟩
    cases hf : ms.find? fun x => x.id = m.id with
    | none => simpa using List.find?_eq_none.1 hf m hm
    | some x =>
        have hx : x.id = m.id := by simpa using List.find?_some hf
        rw [List.inj_on_of_nodup_map hn (List.mem_of_find?_eq_some hf) hm hx]

theorem nodup_ids (r : ModelRegistry σ) : (r.models.map ServiceModel.id).Nodup :=
  List.pairwise_map.2 (r.ascending.imp fun hlt he =>
    UInt16.ne_of_lt hlt (congrArg RanFunctionId.val he))

theorem get?_eq_some_iff : r.get? id = some m ↔ m ∈ r.models ∧ m.id = id :=
  find?_id_eq_some_iff r.nodup_ids

theorem get?_eq_none_iff : r.get? id = none ↔ ∀ m ∈ r.models, m.id ≠ id := by
  simp [get?, List.find?_eq_none]

theorem ext_get? (h : ∀ id, r.get? id = r'.get? id) : r = r' := by
  have hirrefl : Std.Irrefl fun a b : ServiceModel σ => a.id.val < b.id.val :=
    ⟨fun _ => UInt16.lt_irrefl _⟩
  have hantisymm : Std.Antisymm fun a b : ServiceModel σ => a.id.val < b.id.val :=
    ⟨fun _ _ hab hba => absurd (UInt16.lt_trans hab hba) (UInt16.lt_irrefl _)⟩
  have hm : r.models = r'.models := by
    refine List.Pairwise.eq_of_mem_iff r.ascending r'.ascending fun m => ?_
    calc m ∈ r.models ↔ r.get? m.id = some m := by simp [get?_eq_some_iff]
      _ ↔ r'.get? m.id = some m := by rw [h]
      _ ↔ m ∈ r'.models := by simp [get?_eq_some_iff]
  cases r
  cases r'
  cases hm
  rfl

theorem register_of_none (h : r.get? m.id = none) : r.register m = .ok (r.enlist m) := by
  have hn := get?_eq_none_iff.1 h
  simp only [enlist, register, dif_pos hn]

theorem register_of_some (h : r.get? m.id = some x) :
    r.register m = .error (.invalid s!"RAN function {m.id.text} is already registered") ∧
      r.enlist m = r := by
  obtain ⟨hx, he⟩ := get?_eq_some_iff.1 h
  have hn : ¬ ∀ y ∈ r.models, y.id ≠ m.id := fun hn => hn x hx he
  simp only [enlist, register, dif_neg hn, and_self]

theorem get?_enlist (r : ModelRegistry σ) (m : ServiceModel σ) (id : RanFunctionId) :
    (r.enlist m).get? id = (r.get? id).or (if m.id = id then some m else none) := by
  cases hf : r.get? m.id with
  | some x =>
      rw [(register_of_some hf).2]
      by_cases he : m.id = id
      · rw [← he, hf, Option.some_or]
      · rw [if_neg he, Option.or_none]
  | none =>
      have hn := get?_eq_none_iff.1 hf
      have hm : ∀ y, y ∈ (r.enlist m).models ↔ y = m ∨ y ∈ r.models := by
        intro y
        simp only [enlist, register, dif_pos hn, mem_insertModel]
      refine Option.ext fun y => ?_
      rw [get?_eq_some_iff, hm, Option.or_eq_some_iff, get?_eq_some_iff]
      by_cases he : m.id = id
      · subst he
        rw [hf, if_pos rfl, Option.some.injEq]
        simp only [true_and]
        constructor
        · rintro ⟨rfl | hy, hi⟩
          · exact .inr rfl
          · exact .inl ⟨hy, hi⟩
        · rintro (⟨hy, hi⟩ | rfl)
          · exact ⟨.inr hy, hi⟩
          · exact ⟨.inl rfl, rfl⟩
      · simp only [if_neg he, reduceCtorEq, and_false, or_false]
        refine and_congr_left fun hi => or_iff_right ?_
        rintro rfl
        exact he hi

theorem get?_foldl_enlist (ms : List (ServiceModel σ)) (r : ModelRegistry σ) (id : RanFunctionId) :
    (ms.foldl enlist r).get? id = (r.get? id).or (ms.find? fun m => m.id = id) := by
  induction ms generalizing r with
  | nil => simp
  | cons m ms ih =>
      rw [List.foldl_cons, ih, get?_enlist, Option.or_assoc]
      by_cases he : m.id = id <;> simp [he]

theorem get?_registered (ms : List (ServiceModel σ)) (id : RanFunctionId) :
    (registered ms).get? id = ms.find? fun m => m.id = id := by
  rw [registered, get?_foldl_enlist]
  rfl

theorem find?_eq_some_iff :
    (ms.find? fun m => m.id = id) = some m ↔ ∃ n, KeptAt ms n m ∧ m.id = id := by
  rw [List.find?_eq_some_iff_append]
  constructor
  · rintro ⟨hm, before, after, rfl, hb⟩
    have hm : m.id = id := by simpa using hm
    refine ⟨before.length, ⟨by simp, ?_⟩, hm⟩
    simpa [hm] using hb
  · rintro ⟨n, ⟨hn, hb⟩, rfl⟩
    obtain ⟨hlt, rfl⟩ := List.getElem?_eq_some_iff.1 hn
    refine ⟨by simp, ms.take n, ms.drop (n + 1), ?_, ?_⟩
    · simp
    · intro x hx
      have hne : x.id ≠ ms[n].id := fun he => hb (he ▸ List.mem_map_of_mem hx)
      simpa using hne

theorem get?_registered_eq_some_iff :
    (registered ms).get? id = some m ↔ ∃ n, KeptAt ms n m ∧ m.id = id := by
  rw [get?_registered, find?_eq_some_iff]

theorem KeptAt.unique {n' : Nat} {m' : ServiceModel σ} (h : KeptAt ms n m) (h' : KeptAt ms n' m')
    (he : m.id = m'.id) : n = n' ∧ m = m' := by
  obtain ⟨hn, hb⟩ := h
  obtain ⟨hn', hb'⟩ := h'
  have hle : ¬ n < n' := fun hlt =>
    hb' (he ▸ List.mem_map_of_mem (List.mem_of_getElem? (by rwa [List.getElem?_take_of_lt hlt])))
  have hge : ¬ n' < n := fun hlt =>
    hb (he ▸ List.mem_map_of_mem (List.mem_of_getElem? (by rwa [List.getElem?_take_of_lt hlt])))
  obtain rfl : n = n' := by omega
  exact ⟨rfl, Option.some.inj (hn.symm.trans hn')⟩

theorem mem_models_registered : m ∈ (registered ms).models ↔ ∃ n, KeptAt ms n m := by
  calc m ∈ (registered ms).models ↔ (registered ms).get? m.id = some m := by
        simp [get?_eq_some_iff]
    _ ↔ ∃ n, KeptAt ms n m := by simp [get?_registered_eq_some_iff]

theorem announced_ascending (r : ModelRegistry σ) :
    r.announced.Pairwise fun a b => a.id.val < b.id.val :=
  List.pairwise_map.2 r.ascending

theorem mem_announced_registered {item : RanFunctionItem} :
    item ∈ (registered ms).announced ↔ ∃ n m, KeptAt ms n m ∧ m.function.item = item := by
  simp only [announced, List.mem_map, mem_models_registered]
  constructor
  · rintro ⟨m, ⟨n, hn⟩, hi⟩
    exact ⟨n, m, hn, hi⟩
  · rintro ⟨n, m, hn, hi⟩
    exact ⟨m, ⟨n, hn⟩, hi⟩

theorem mem_announced_ids : id ∈ r.announced.map RanFunctionItem.id ↔ r.get? id ≠ none := by
  rw [Ne, get?_eq_none_iff]
  simp [announced, RanFunction.item, ServiceModel.id]

theorem register_registered (before : List (ServiceModel σ)) (m : ServiceModel σ) :
    if m.id ∈ before.map ServiceModel.id then
      (registered before).register m =
          .error (.invalid s!"RAN function {m.id.text} is already registered") ∧
        registered (before ++ [m]) = registered before
    else (registered before).register m = .ok (registered (before ++ [m])) := by
  have ha : registered (before ++ [m]) = (registered before).enlist m := by simp [registered]
  have hg := get?_registered before m.id
  rw [ha]
  split
  · rename_i hm
    obtain ⟨x, hx, he⟩ := List.mem_map.1 hm
    cases hf : before.find? fun x => x.id = m.id with
    | none => simpa [he] using List.find?_eq_none.1 hf x hx
    | some y => exact register_of_some (hg.trans hf)
  · rename_i hm
    refine register_of_none (hg.trans (List.find?_eq_none.2 fun x hx => ?_))
    have hne : x.id ≠ m.id := fun he => hm (he ▸ List.mem_map_of_mem hx)
    simpa using hne

theorem registered_perm (hp : ms.Perm ms') (hn : (ms.map ServiceModel.id).Nodup) :
    registered ms = registered ms' := by
  refine ext_get? fun id => Option.ext fun m => ?_
  rw [get?_registered, get?_registered, find?_id_eq_some_iff hn,
    find?_id_eq_some_iff ((hp.map _).nodup_iff.1 hn), hp.mem_iff]

end E2Node.ModelRegistry
