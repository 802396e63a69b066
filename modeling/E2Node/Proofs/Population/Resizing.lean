import E2Node.Proofs.Population.Members
import Mathlib.Data.Bool.Basic

namespace E2Node

def CellSource.Supplies {σ : Type} (src : CellSource σ) : Prop :=
  ∀ s, ∃ c s', src.pick s = (.ok c, s')

namespace Population

inductive Progress
  | begun
  | measured (size : Nat)
  | done
  | failed (e : RegistryError)
  deriving DecidableEq

structure Resizing where
  population : Population
  calls : Bool → Progress

namespace Resizing

inductive Event
  | measured (i : Bool)
  | adjusted (i : Bool)
  | refused (i : Bool)
  deriving DecidableEq

def start (p : Population) : Resizing := ⟨p, fun _ => .begun⟩

def put (c : Resizing) (i : Bool) (x : Progress) : Resizing :=
  { c with calls := Function.update c.calls i x }

/-- One section of one call, with anything that it leaves to chance. -/
inductive Happens {σ : Type} (src : CellSource σ) (n : Nat) (c : Resizing) :
    Event → Resizing → Prop
  | measures {i} (hi : c.calls i = .begun) :
      Happens src n c (.measured i) (c.put i (.measured c.population.size))
  | adjusts {i k q} (ds : List Draw) (order : Shuffle) (s : σ) (hi : c.calls i = .measured k)
      (ha : (c.population.adjust src k n ds order s).1 = some (.ok q)) :
      Happens src n c (.adjusted i) ({ c with population := q }.put i .done)
  | refuses {i k e} (ds : List Draw) (order : Shuffle) (s : σ) (hi : c.calls i = .measured k)
      (ha : (c.population.adjust src k n ds order s).1 = some (.error e)) :
      Happens src n c (.refused i) (c.put i (.failed e))

inductive Course {σ : Type} (src : CellSource σ) (n : Nat) (c : Resizing) :
    List Event → Resizing → Prop
  | refl : Course src n c [] c
  | tail {es e c' c''} (h : Course src n c es c') (hc : Happens src n c' e c'') :
      Course src n c (es ++ [e]) c''

def InTurn (es : List Event) : Prop :=
  ∃ i, es = [.measured i, .adjusted i, .measured !i, .adjusted !i]

instance (es : List Event) : Decidable (InTurn es) :=
  inferInstanceAs (Decidable (∃ i, es = [.measured i, .adjusted i, .measured !i, .adjusted !i]))

def Overlapped (es : List Event) : Prop := ∃ i fs, es = .measured i :: .measured (!i) :: fs

/-- How far the calls have come from a population of size `m`. Where they have come differently
far, `i` is ahead. -/
inductive Stage (n m : Nat) (es : List Event) (c : Resizing) : Prop
  | idle (he : es = []) (hb : ∀ i, c.calls i = .begun) (hs : c.population.size = m)
  | reading (i : Bool) (he : es = [.measured i]) (hi : c.calls i = .measured m)
      (hj : c.calls (!i) = .begun) (hs : c.population.size = m)
  | first (i : Bool) (he : es = [.measured i, .adjusted i]) (hi : c.calls i = .done)
      (hj : c.calls (!i) = .begun) (hs : c.population.size = n)
  | second (i : Bool) (he : es = [.measured i, .adjusted i, .measured !i])
      (hi : c.calls i = .done) (hj : c.calls (!i) = .measured n) (hs : c.population.size = n)
  | inTurn (he : InTurn es) (hd : ∀ i, c.calls i = .done) (hs : c.population.size = n)
  | both (he : Overlapped es) (hm : ∀ i, c.calls i = .measured m) (hs : c.population.size = m)
  | half (i : Bool) (he : Overlapped es) (hi : c.calls i = .done) (hj : c.calls (!i) = .measured m)
      (hs : c.population.size = n)
  | overlapped (he : Overlapped es) (hd : ∀ i, c.calls i = .done)
      (hs : c.population.size = 2 * n - m)
  | stuck (i : Bool) (e : RegistryError) (hi : c.calls i = .failed e)

variable {σ : Type} {src : CellSource σ} {n m k : Nat} {es : List Event} {e : Event}
  {c c' : Resizing} {i j : Bool} {x y : Progress} {p q : Population}

theorem calls_put_self : (c.put i x).calls i = x := Function.update_self ..

theorem calls_put_of_ne (h : j ≠ i) (hj : c.calls j = y) : (c.put i x).calls j = y :=
  (Function.update_of_ne h ..).trans hj

theorem Overlapped.concat (h : Overlapped es) (e : Event) : Overlapped (es ++ [e]) := by
  obtain ⟨i, fs, rfl⟩ := h
  exact ⟨i, fs ++ [e], rfl⟩

theorem Overlapped.not_inTurn (h : Overlapped es) : ¬ InTurn es := by
  obtain ⟨i, fs, rfl⟩ := h
  rintro ⟨j, hj⟩
  simp at hj

theorem Stage.measure (h : Stage n m es c) (hi : c.calls i = .begun) :
    Stage n m (es ++ [.measured i]) (c.put i (.measured c.population.size)) := by
  cases h with
  | idle he hb hs =>
      exact .reading i (by rw [he]; rfl) (by rw [calls_put_self, hs])
        (calls_put_of_ne (Bool.not_ne_self i) (hb !i)) hs
  | reading j he hj hk hs =>
      obtain rfl | rfl := Bool.eq_or_eq_not i j
      · simp [hi] at hj
      · refine .both ⟨j, [], by rw [he]; rfl⟩ (fun k => ?_) hs
        obtain rfl | rfl := Bool.eq_or_eq_not k j
        · exact calls_put_of_ne (Bool.not_ne_self k).symm hj
        · rw [calls_put_self, hs]
  | first j he hj hk hs =>
      obtain rfl | rfl := Bool.eq_or_eq_not i j
      · simp [hi] at hj
      · exact .second j (by rw [he]; rfl) (calls_put_of_ne (Bool.not_ne_self j).symm hj)
          (by rw [calls_put_self, hs]) hs
  | second j _ hj hk | half j _ hj hk =>
      obtain rfl | rfl := Bool.eq_or_eq_not i j
      · simp [hi] at hj
      · simp [hi] at hk
  | inTurn _ hd | overlapped _ hd => simp [hd] at hi
  | both _ hm => simp [hm] at hi
  | stuck j e hj =>
      have hne : j ≠ i := by
        rintro rfl
        simp [hi] at hj
      exact .stuck j e (calls_put_of_ne hne hj)

theorem Stage.adjust (h : Stage n m es c) (hi : c.calls i = .measured k)
    (hq : q.size = c.population.size + (n - k) - (k - n)) :
    Stage n m (es ++ [.adjusted i]) ({ c with population := q }.put i .done) := by
  cases h with
  | idle _ hb => simp [hb] at hi
  | reading j he hj hk hs =>
      obtain rfl | rfl := Bool.eq_or_eq_not i j
      · cases hi.symm.trans hj
        have hn : q.size = n := by rw [hs] at hq; omega
        exact .first i (by rw [he]; rfl) calls_put_self
          (calls_put_of_ne (Bool.not_ne_self i) hk) hn
      · simp [hi] at hk
  | first j _ hj hk =>
      obtain rfl | rfl := Bool.eq_or_eq_not i j
      · simp [hi] at hj
      · simp [hi] at hk
  | second j he hj hk hs =>
      obtain rfl | rfl := Bool.eq_or_eq_not i j
      · simp [hi] at hj
      · cases hi.symm.trans hk
        have hn : q.size = n := by rw [hs] at hq; omega
        refine .inTurn ⟨j, by rw [he]; rfl⟩ (fun k => ?_) hn
        obtain rfl | rfl := Bool.eq_or_eq_not k j
        · exact calls_put_of_ne (Bool.not_ne_self k).symm hj
        · exact calls_put_self
  | inTurn _ hd | overlapped _ hd => simp [hd] at hi
  | both he hm hs =>
      cases hi.symm.trans (hm i)
      have hn : q.size = n := by rw [hs] at hq; omega
      exact .half i (he.concat _) calls_put_self
        (calls_put_of_ne (Bool.not_ne_self i) (hm !i)) hn
  | half j he hj hk hs =>
      obtain rfl | rfl := Bool.eq_or_eq_not i j
      · simp [hi] at hj
      · cases hi.symm.trans hk
        have hn : q.size = 2 * n - m := by rw [hs] at hq; omega
        refine .overlapped (he.concat _) (fun k => ?_) hn
        obtain rfl | rfl := Bool.eq_or_eq_not k j
        · exact calls_put_of_ne (Bool.not_ne_self k).symm hj
        · exact calls_put_self
  | stuck j e hj =>
      have hne : j ≠ i := by
        rintro rfl
        simp [hi] at hj
      exact .stuck j e (calls_put_of_ne hne hj)

theorem Stage.step (h : Stage n m es c) (hc : Happens src n c e c') :
    Stage n m (es ++ [e]) c' := by
  cases hc with
  | measures hi => exact h.measure hi
  | adjusts _ _ _ hi ha => exact h.adjust hi (size_adjust ha)
  | @refuses i _ e => exact .stuck i e calls_put_self

theorem Course.stage (h : Course src n (start p) es c) : Stage n p.size es c := by
  induction h with
  | refl => exact .idle rfl (fun _ => rfl) rfl
  | tail _ hc ih => exact ih.step hc

/-- When both calls have ended well, the population has the size they were asked for if one was
over before the other began. Otherwise it is as far beyond that size as it was short of it, or the
other way round. -/
theorem size_of_both_done (h : Course src n (start p) es c) (hd : ∀ i, c.calls i = .done) :
    c.population.size = (if InTurn es then n else 2 * n - p.size) ∧
      (c.population.size = n ↔ InTurn es ∨ p.size = n ∨ n = 0) := by
  have hsize : c.population.size = if InTurn es then n else 2 * n - p.size := by
    cases h.stage with
    | inTurn he _ hs => rw [if_pos he, hs]
    | overlapped he _ hs => rw [if_neg he.not_inTurn, hs]
    | idle _ hb => simp [hd] at hb
    | reading i _ _ hj | first i _ _ hj | second i _ _ hj | half i _ _ hj => simp [hd] at hj
    | both _ hm => simp [hd] at hm
    | stuck _ _ hi => simp [hd] at hi
  refine ⟨hsize, ?_⟩
  rw [hsize]
  split
  · rename_i ht
    simp [ht]
  · rename_i ht
    simp only [ht, false_or]
    omega

theorem overlapped_shrink_undershoots :
    let c : Cell := ⟨⟨0x11⟩, .origin, none, 99, .zero⟩
    let src : CellSource Unit := ⟨fun s => (.ok c, s), fun _ _ => true⟩
    let p := (Draw.row 0 3).foldl (fun p d => p.insertNew c d) empty
    ∃ es c', Course src 2 (start p) es c' ∧ (∀ i, c'.calls i = .done) ∧ ¬ InTurn es ∧
      p.size = 3 ∧ c'.population.size = 1 ∧ ¬ (InTurn es ∨ p.size = 2 ∨ 2 = 0) := by
  intro c src p
  let c₂ : Resizing := ((start p).put true (.measured 3)).put false (.measured 3)
  let c₃ := { c₂ with population := p.shrink 1 .none }.put true .done
  let c₄ := { c₃ with population := (p.shrink 1 .none).shrink 1 .none }.put false .done
  have h₂ : Course src 2 (start p) [.measured true, .measured false] c₂ :=
    (Course.refl.tail (.measures (i := true) rfl)).tail (.measures (i := false) rfl)
  have h₃ : Course src 2 (start p) [.measured true, .measured false, .adjusted true] c₃ :=
    h₂.tail (.adjusts [] .none () rfl rfl)
  have h₄ : Course src 2 (start p) [.measured true, .measured false, .adjusted true,
      .adjusted false] c₄ :=
    h₃.tail (.adjusts [] .none () rfl rfl)
  have hd : ∀ i, c₄.calls i = .done := by decide
  obtain ⟨hs, hn⟩ := size_of_both_done h₄ hd
  have ht : ¬ InTurn [.measured true, .measured false, .adjusted true, .adjusted false] := by
    decide
  have hp : p.size = 3 := rfl
  rw [if_neg ht, hp] at hs
  exact ⟨_, c₄, h₄, hd, ht, hp, hs, hn.not.1 (by rw [hs]; decide)⟩

/-- Two calls that ask for two members can leave four. -/
theorem overlapped_growth_overshoots :
    ¬ ∀ (σ : Type) (src : CellSource σ), src.Supplies → ∀ n p es c,
      Course src n (start p) es c → (∀ i, c.calls i = .done) → c.population.size = n := by
  intro h
  let c : Cell := ⟨⟨0x11⟩, .origin, none, 99, .zero⟩
  let src : CellSource Unit := ⟨fun s => (.ok c, s), fun _ _ => true⟩
  let grown (p : Population) (ds : List Draw) := ds.foldl (fun p d => p.insertNew c d) p
  let p₁ := grown empty (Draw.row 0 2)
  let c₂ : Resizing := ((start empty).put true (.measured 0)).put false (.measured 0)
  let c₃ := { c₂ with population := p₁ }.put true .done
  let c₄ := { c₃ with population := grown p₁ (Draw.row 2 2) }.put false .done
  have h₂ : Course src 2 (start empty) [.measured true, .measured false] c₂ :=
    (Course.refl.tail (.measures (i := true) rfl)).tail (.measures (i := false) rfl)
  have h₃ : Course src 2 (start empty) [.measured true, .measured false, .adjusted true] c₃ :=
    h₂.tail (.adjusts (Draw.row 0 2) .none () rfl rfl)
  have h₄ : Course src 2 (start empty) [.measured true, .measured false, .adjusted true,
      .adjusted false] c₄ :=
    h₃.tail (.adjusts (Draw.row 2 2) .none () rfl rfl)
  exact absurd (h Unit src (fun s => ⟨c, s, rfl⟩) 2 empty _ c₄ h₄ (by decide)) (by decide)

end Resizing

end Population

end E2Node
