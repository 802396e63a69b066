import E2Node.Proofs.Registry.Table
import E2Node.Proofs.Subscription.Registry
import Mathlib.Data.Finmap

namespace E2Node

namespace Table

variable {κ υ : Type} [DecidableEq κ] {t : Table κ υ} {k : κ} {v : υ}

def toFinmap (t : Table κ υ) : Finmap fun _ : κ => υ :=
  (t.entries.map fun e => (⟨e.1, e.2⟩ : Sigma fun _ : κ => υ)).toFinmap

theorem lookup_toFinmap (t : Table κ υ) (k : κ) : t.toFinmap.lookup k = t.get? k := by
  rw [toFinmap, Finmap.dlookup_list_toFinmap, get?]
  induction t.entries with
  | nil => rfl
  | cons e es ih =>
      obtain ⟨k', v⟩ := e
      by_cases hk : k = k'
      · subst k'
        simp
      · rw [List.map_cons, List.dlookup_cons_ne _ _ hk, ih, List.lookup_cons,
          beq_eq_false_iff_ne.2 hk]

theorem mem_toFinmap_iff : k ∈ t.toFinmap ↔ k ∈ t.keys := by
  rw [← Finmap.lookup_isSome, lookup_toFinmap, mem_keys_iff]

theorem notMem_toFinmap_iff : k ∉ t.toFinmap ↔ t.get? k = none := by
  rw [← Finmap.lookup_eq_none, lookup_toFinmap]

theorem toFinmap_insert (t : Table κ υ) (k : κ) (v : υ) :
    (t.insert k v).toFinmap = t.toFinmap.insert k v := by
  apply Finmap.ext_lookup
  intro k'
  rw [lookup_toFinmap, get?_insert]
  split
  · subst k'
    rw [Finmap.lookup_insert]
  · rename_i hk
    rw [Finmap.lookup_insert_of_ne _ hk, lookup_toFinmap]

theorem toFinmap_erase (t : Table κ υ) (k : κ) : (t.erase k).toFinmap = t.toFinmap.erase k := by
  apply Finmap.ext_lookup
  intro k'
  rw [lookup_toFinmap, get?_erase]
  split
  · subst k'
    rw [Finmap.lookup_erase]
  · rename_i hk
    rw [Finmap.lookup_erase_ne hk, lookup_toFinmap]

theorem card_keys_toFinmap (t : Table κ υ) : t.toFinmap.keys.card = t.size := by
  have hk : t.toFinmap.keys = t.keys.toFinset := by
    ext k
    rw [Finmap.mem_keys, List.mem_toFinset, mem_toFinmap_iff]
  have hn : t.keys.Nodup := t.distinct
  rw [hk, List.toFinset_card_of_nodup hn, size_eq_length_keys]

end Table

abbrev Contents := Finmap fun _ : SubscriptionKey => Subscription

/-- A registry, and the tickers that there are. -/
structure Office where
  registry : Subscriptions
  tickers : Tickers

namespace Office

inductive Operation
  | add (s : Subscription)
  | get (k : SubscriptionKey)
  | remove (k : SubscriptionKey)
  | release (k : SubscriptionKey) (t : TickerId)
  | keys
  | size
  | newTicker
  | stop (t : TickerId)
  deriving DecidableEq

def Operation.isStop : Operation → Bool
  | .stop _ => true
  | _ => false

inductive Answer
  | done
  | entry (s : Subscription)
  | refused (e : RegistryError)
  | released (yes : Bool)
  | keys (ks : List SubscriptionKey)
  | size (n : Nat)
  | ticker (t : TickerId)
  deriving DecidableEq

namespace Answer

def isRefusal : Answer → Bool
  | .refused _ => true
  | .released yes => !yes
  | _ => false

def ticker? : Answer → Option TickerId
  | .ticker t => some t
  | _ => none

end Answer

def perform (o : Office) : Operation → Answer × Office
  | .add s =>
      match o.registry.add s with
      | .ok r => (.done, { o with registry := r })
      | .error e => (.refused e, o)
  | .get k =>
      match o.registry.get k with
      | .ok s => (.entry s, o)
      | .error e => (.refused e, o)
  | .remove k =>
      match o.registry.remove k with
      | .ok (s, r) => (.entry s, { o with registry := r })
      | .error e => (.refused e, o)
  | .release k t =>
      (.released (o.registry.owns k t), { o with registry := o.registry.release k t })
  | .keys => (.keys o.registry.keys, o)
  | .size => (.size o.registry.size, o)
  | .newTicker => (.ticker o.tickers.next, { o with tickers := o.tickers.create })
  | .stop t => (.done, { o with tickers := o.tickers.stop t })

def run (o : Office) : List Operation → List (Operation × Answer) × Office
  | [] => ([], o)
  | x :: xs =>
      let r := (o.perform x).2.run xs
      ((x, (o.perform x).1) :: r.1, r.2)

def start : Office := ⟨.empty, .empty⟩

def contents (o : Office) : Contents := o.registry.entries.toFinmap

/-- What a finite map answers, and what becomes of it. Of the keys only the order is left open. -/
inductive MapStep (m : Contents) : Operation → Answer → Contents → Prop
  | added {s} (h : s.key ∉ m) : MapStep m (.add s) .done (m.insert s.key s)
  | present {s} (h : s.key ∈ m) :
      MapStep m (.add s) (.refused (.alreadyExists (.subscription s.key))) m
  | got {k s} (h : m.lookup k = some s) : MapStep m (.get k) (.entry s) m
  | missed {k} (h : k ∉ m) : MapStep m (.get k) (.refused (.notFound (.subscription k))) m
  | removed {k s} (h : m.lookup k = some s) : MapStep m (.remove k) (.entry s) (m.erase k)
  | absent {k} (h : k ∉ m) : MapStep m (.remove k) (.refused (.notFound (.subscription k))) m
  | released {k t s} (h : m.lookup k = some s) (ht : s.ticker = some t) :
      MapStep m (.release k t) (.released true) (m.erase k)
  | kept {k t} (h : ∀ s, m.lookup k = some s → s.ticker ≠ some t) :
      MapStep m (.release k t) (.released false) m
  | keys {ks} (hn : ks.Nodup) (h : ∀ k, k ∈ ks ↔ k ∈ m) : MapStep m .keys (.keys ks) m
  | size : MapStep m .size (.size m.keys.card) m
  | newTicker {t} : MapStep m .newTicker (.ticker t) m
  | stop {t} : MapStep m (.stop t) .done m

namespace MapStep

variable {m m' : Contents} {a : Answer} {k : SubscriptionKey} {t : TickerId} {s : Subscription}

theorem add_iff (h : MapStep m (.add s) a m') : a = .done ↔ s.key ∉ m := by
  cases h with
  | added h => simp [h]
  | present h => simp [h]

theorem get_iff (h : MapStep m (.get k) a m') : a.isRefusal = true ↔ k ∉ m := by
  cases h with
  | got h => simp [Answer.isRefusal, Finmap.mem_of_lookup_eq_some h]
  | missed h => simp [Answer.isRefusal, h]

theorem remove_iff (h : MapStep m (.remove k) a m') : a.isRefusal = true ↔ k ∉ m := by
  cases h with
  | removed h => simp [Answer.isRefusal, Finmap.mem_of_lookup_eq_some h]
  | absent h => simp [Answer.isRefusal, h]

theorem release_iff (h : MapStep m (.release k t) a m') :
    a = .released true ↔ ∃ s, m.lookup k = some s ∧ s.ticker = some t := by
  cases h with
  | released h ht => exact ⟨fun _ => ⟨_, h, ht⟩, fun _ => rfl⟩
  | kept h => exact ⟨nofun, fun ⟨s, hs, ht⟩ => absurd ht (h s hs)⟩

theorem eq_of_isRefusal {x : Operation} (h : MapStep m x a m') (ha : a.isRefusal = true) :
    m' = m := by
  cases h with
  | added h => exact nomatch ha
  | removed h => exact nomatch ha
  | released h ht => exact nomatch ha
  | present h => rfl
  | got h => rfl
  | missed h => rfl
  | absent h => rfl
  | kept h => rfl
  | keys hn h => rfl
  | size => rfl
  | newTicker => rfl
  | stop => rfl

end MapStep

inductive MapRun : Contents → List (Operation × Answer) → Contents → Prop
  | nil {m} : MapRun m [] m
  | cons {m m' m'' x a xs} (h : MapStep m x a m') (hs : MapRun m' xs m'') :
      MapRun m ((x, a) :: xs) m''

variable {o o' : Office}

theorem perform_refines (o : Office) (x : Operation) :
    MapStep o.contents x (o.perform x).1 (o.perform x).2.contents := by
  cases x with
  | add s =>
      cases h : o.registry.entries.get? s.key with
      | none =>
          have hr := Subscriptions.add_eq_ok_iff.2 ⟨h, rfl⟩
          simp only [perform, hr, contents, Table.toFinmap_insert]
          exact .added (Table.notMem_toFinmap_iff.2 h)
      | some e =>
          have hr : o.registry.add s = .error (.alreadyExists (.subscription s.key)) := by
            rw [Subscriptions.add, Table.contains, h]
            rfl
          simp only [perform, hr]
          exact .present (Finmap.mem_of_lookup_eq_some ((Table.lookup_toFinmap _ _).trans h))
  | get k =>
      simp only [perform, Subscriptions.get]
      cases h : o.registry.entries.get? k with
      | none => exact .missed (Table.notMem_toFinmap_iff.2 h)
      | some s => exact .got ((Table.lookup_toFinmap _ _).trans h)
  | remove k =>
      simp only [perform, Subscriptions.remove]
      cases h : o.registry.entries.get? k with
      | none => exact .absent (Table.notMem_toFinmap_iff.2 h)
      | some s =>
          simp only [contents, Table.toFinmap_erase]
          exact .removed ((Table.lookup_toFinmap _ _).trans h)
  | release k t =>
      simp only [perform, Subscriptions.release]
      by_cases h : o.registry.owns k t = true
      · obtain ⟨s, hs, ht⟩ := Subscriptions.owns_iff.1 h
        rw [if_pos h, h]
        simp only [contents, Table.toFinmap_erase]
        exact .released ((Table.lookup_toFinmap _ _).trans hs) ht
      · rw [if_neg h, eq_false_of_ne_true h]
        refine .kept fun s hs ht => h (Subscriptions.owns_iff.2 ⟨s, ?_, ht⟩)
        rwa [contents, Table.lookup_toFinmap] at hs
  | keys =>
      have hp := List.mergeSort_perm o.registry.entries.keys SubscriptionKey.le
      exact .keys (hp.nodup_iff.2 o.registry.entries.distinct)
        fun k => hp.mem_iff.trans Table.mem_toFinmap_iff.symm
  | size =>
      simp only [perform, Subscriptions.size, ← Table.card_keys_toFinmap]
      exact .size
  | newTicker => exact .newTicker
  | stop t => exact .stop

example :
    let k : SubscriptionKey := ⟨1, 7, ⟨1⟩⟩
    (start.run [.newTicker, .newTicker, .add ⟨k, [], .none, ⟨0⟩, some ⟨1⟩⟩, .release k ⟨0⟩,
      .stop ⟨1⟩, .release k ⟨1⟩, .release k ⟨1⟩]).1.map Prod.snd =
      [.ticker ⟨0⟩, .ticker ⟨1⟩, .done, .released false, .done, .released true,
        .released false] := by
  decide

theorem run_refines (o : Office) (xs : List Operation) :
    MapRun o.contents (o.run xs).1 (o.run xs).2.contents := by
  induction xs generalizing o with
  | nil => exact .nil
  | cons x xs ih => exact .cons (o.perform_refines x) (ih _)

theorem perform_congr (x : Operation) (hr : o.registry = o'.registry)
    (hc : o.tickers.created = o'.tickers.created) :
    (o.perform x).1 = (o'.perform x).1 ∧ (o.perform x).2.registry = (o'.perform x).2.registry ∧
      (o.perform x).2.tickers.created = (o'.perform x).2.tickers.created := by
  obtain ⟨r, t⟩ := o
  obtain ⟨r', t'⟩ := o'
  obtain rfl : r = r' := hr
  replace hc : t.created = t'.created := hc
  cases x with
  | add s => cases h : r.add s <;> simp [perform, h, hc]
  | get k => cases h : r.get k <;> simp [perform, h, hc]
  | remove k => cases h : r.remove k <;> simp [perform, h, hc]
  | release k t => exact ⟨rfl, rfl, hc⟩
  | keys => exact ⟨rfl, rfl, hc⟩
  | size => exact ⟨rfl, rfl, hc⟩
  | newTicker => exact ⟨congrArg (fun n => Answer.ticker ⟨n⟩) hc, rfl, congrArg (· + 1) hc⟩
  | stop t => exact ⟨rfl, rfl, hc⟩

theorem run_filter_stop (hr : o.registry = o'.registry)
    (hc : o.tickers.created = o'.tickers.created) (xs : List Operation) :
    (o.run xs).1.filter (fun r => !r.1.isStop) = (o'.run (xs.filter fun x => !x.isStop)).1 ∧
      (o.run xs).2.registry = (o'.run (xs.filter fun x => !x.isStop)).2.registry := by
  induction xs generalizing o o' with
  | nil => exact ⟨rfl, hr⟩
  | cons x xs ih =>
      cases hx : x.isStop with
      | true =>
          obtain ⟨t, rfl⟩ : ∃ t, x = .stop t := by
            cases x <;> simp_all [Operation.isStop]
          have hstop : (o.perform (.stop t)).2.registry = o'.registry := hr
          exact ih hstop hc
      | false =>
          obtain ⟨ha, hr', hc'⟩ := perform_congr x hr hc
          obtain ⟨hrun, hend⟩ := ih hr' hc'
          rw [List.filter_cons_of_pos (by simp [hx])]
          simp only [run]
          rw [List.filter_cons_of_pos (by simp [hx]), hrun, ha]
          exact ⟨rfl, hend⟩

theorem ticker?_perform (o : Office) (x : Operation) :
    (o.perform x).1.ticker? = none ∧ (o.perform x).2.tickers.created = o.tickers.created ∨
      (o.perform x).1.ticker? = some o.tickers.next ∧
        (o.perform x).2.tickers.created = o.tickers.created + 1 := by
  cases x with
  | add s => cases h : o.registry.add s <;> simp [perform, h, Answer.ticker?]
  | get k => cases h : o.registry.get k <;> simp [perform, h, Answer.ticker?]
  | remove k => cases h : o.registry.remove k <;> simp [perform, h, Answer.ticker?]
  | release k t => exact .inl ⟨rfl, rfl⟩
  | keys => exact .inl ⟨rfl, rfl⟩
  | size => exact .inl ⟨rfl, rfl⟩
  | newTicker => exact .inr ⟨rfl, rfl⟩
  | stop t => exact .inl ⟨rfl, rfl⟩

def created (o : Office) (xs : List Operation) : List TickerId :=
  (o.run xs).1.filterMap fun r => r.2.ticker?

theorem created_run (o : Office) (xs : List Operation) :
    (o.created xs).Nodup ∧ ∀ t ∈ o.created xs, o.tickers.created ≤ t.val := by
  induction xs generalizing o with
  | nil => exact ⟨List.nodup_nil, nofun⟩
  | cons x xs ih =>
      obtain ⟨hn, hle⟩ := ih (o.perform x).2
      have hc : o.created (x :: xs) =
          (o.perform x).1.ticker?.toList ++ (o.perform x).2.created xs := by
        rw [created, run, List.filterMap_cons]
        cases (o.perform x).1.ticker? <;> rfl
      rw [hc]
      obtain ⟨ht, he⟩ | ⟨ht, he⟩ := o.ticker?_perform x <;> rw [he] at hle <;> rw [ht]
      · exact ⟨hn, hle⟩
      · refine ⟨List.nodup_cons.2 ⟨fun hm => ?_, hn⟩, fun t hm => ?_⟩
        · exact absurd (hle _ hm) (Nat.not_succ_le_self _)
        · obtain rfl | hm := List.mem_cons.1 hm
          · exact Nat.le_refl _
          · exact Nat.le_of_succ_le (hle t hm)

/-- The registry answers to any operations as a finite map does. An entry is added if and only if
its key is absent, got and removed if and only if its key is present, and released if and only if it
is driven by that very ticker; what is refused changes nothing. The stopping of tickers makes no
difference, and no two of them are one. -/
theorem answers_as_map (o : Office) (xs : List Operation) :
    (start.contents = ∅ ∧ MapRun o.contents (o.run xs).1 (o.run xs).2.contents) ∧
    ((∀ s, (o.perform (.add s)).1 = .done ↔ s.key ∉ o.contents) ∧
      (∀ k, (o.perform (.get k)).1.isRefusal = true ↔ k ∉ o.contents) ∧
      (∀ k, (o.perform (.remove k)).1.isRefusal = true ↔ k ∉ o.contents) ∧
      (∀ k t, (o.perform (.release k t)).1 = .released true ↔
        ∃ s, o.contents.lookup k = some s ∧ s.ticker = some t) ∧
      ∀ x, (o.perform x).1.isRefusal = true → (o.perform x).2.contents = o.contents) ∧
    ((o.run xs).1.filter (fun r => !r.1.isStop) = (o.run (xs.filter fun x => !x.isStop)).1 ∧
      (o.run xs).2.contents = (o.run (xs.filter fun x => !x.isStop)).2.contents) ∧
    (o.created xs).Nodup := by
  have hreg : o.registry = o.registry := rfl
  obtain ⟨hs, he⟩ := run_filter_stop hreg rfl xs
  refine ⟨⟨rfl, o.run_refines xs⟩, ?_, ⟨hs, congrArg (·.entries.toFinmap) he⟩,
    (o.created_run xs).1⟩
  exact ⟨fun s => (o.perform_refines (.add s)).add_iff,
    fun k => (o.perform_refines (.get k)).get_iff,
    fun k => (o.perform_refines (.remove k)).remove_iff,
    fun k t => (o.perform_refines (.release k t)).release_iff,
    fun x => (o.perform_refines x).eq_of_isRefusal⟩

end Office

end E2Node
