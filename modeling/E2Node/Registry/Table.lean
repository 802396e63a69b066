namespace E2Node

structure Table (κ υ : Type) where
  entries : List (κ × υ)
  distinct : (entries.map Prod.fst).Nodup

namespace Table

variable {κ υ : Type} [DecidableEq κ]

def empty : Table κ υ := ⟨[], List.nodup_nil⟩

def get? (t : Table κ υ) (k : κ) : Option υ := t.entries.lookup k

def contains (t : Table κ υ) (k : κ) : Bool := (t.get? k).isSome

def keys (t : Table κ υ) : List κ := t.entries.map Prod.fst

def values (t : Table κ υ) : List υ := t.entries.map Prod.snd

def size (t : Table κ υ) : Nat := t.entries.length

def isEmpty (t : Table κ υ) : Bool := t.entries.isEmpty

omit [DecidableEq κ] in
theorem nodup_filter {p : κ × υ → Bool} {l : List (κ × υ)} (h : (l.map Prod.fst).Nodup) :
    ((l.filter p).map Prod.fst).Nodup :=
  h.sublist (List.filter_sublist.map _)

def erase (t : Table κ υ) (k : κ) : Table κ υ :=
  ⟨t.entries.filter fun e => e.1 ≠ k, nodup_filter t.distinct⟩

theorem not_mem_keys_erase (t : Table κ υ) (k : κ) : k ∉ (t.erase k).keys := by
  simp [erase, keys]

def insert (t : Table κ υ) (k : κ) (v : υ) : Table κ υ :=
  ⟨(k, v) :: (t.erase k).entries,
    List.nodup_cons.2 ⟨not_mem_keys_erase t k, (t.erase k).distinct⟩⟩

def ofList (es : List (κ × υ)) : Table κ υ := es.foldl (fun t e => t.insert e.1 e.2) empty

theorem lookup_filter_self (l : List (κ × υ)) (k : κ) :
    (l.filter fun e => e.1 ≠ k).lookup k = none := by
  rw [List.lookup_eq_none_iff]
  intro e he
  have := (List.mem_filter.1 he).2
  simp only [ne_eq, decide_not, Bool.not_eq_true', decide_eq_false_iff_not] at this
  simpa using fun h => this h.symm

theorem lookup_filter_of_ne (l : List (κ × υ)) {k k' : κ} (h : k' ≠ k) :
    (l.filter fun e => e.1 ≠ k).lookup k' = l.lookup k' := by
  induction l with
  | nil => rfl
  | cons e l ih =>
      by_cases he : e.1 = k
      · have hb : (k' == e.1) = false := by simpa [he] using h
        rw [List.filter_cons_of_neg (by simpa using he), ih, List.lookup_cons, hb]
      · rw [List.filter_cons_of_pos (by simpa using he), List.lookup_cons, List.lookup_cons, ih]

theorem get?_erase (t : Table κ υ) (k k' : κ) :
    (t.erase k).get? k' = if k' = k then none else t.get? k' := by
  split
  · subst k'; exact lookup_filter_self t.entries k
  · exact lookup_filter_of_ne t.entries ‹_›

theorem get?_insert (t : Table κ υ) (k k' : κ) (v : υ) :
    (t.insert k v).get? k' = if k' = k then some v else t.get? k' := by
  by_cases h : k' = k
  · subst k'; simp [insert, get?]
  · have hb : (k' == k) = false := by simpa using h
    have := get?_erase t k k'
    simp only [get?, h, if_false] at this
    simpa [insert, get?, List.lookup_cons, hb, h] using this

end Table

end E2Node
