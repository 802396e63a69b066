import E2Node.Proofs.Population.Changes
import E2Node.Proofs.Registry.Table

namespace E2Node

namespace Population

variable {p : Population}

theorem replay_perm (p : Population) (order : Shuffle) :
    (p.replay order).Perm (p.ues.values.map (UeEvent.mk .present)) := by
  rw [← Table.filterMap_keys, List.map_filterMap]
  exact (order.perm _).filterMap _

theorem foldl_replay (hp : p.Keyed) (is : List Imsi) (r : Replica) (i : Imsi) :
    (is.filterMap fun i => (p.ues.get? i).map (UeEvent.mk .present)).foldl Replica.apply r i =
      if i ∈ is ∧ (p.ues.get? i).isSome = true then p.ues.get? i else r i := by
  induction is generalizing r with
  | nil => simp
  | cons j is ih =>
      cases hj : p.ues.get? j with
      | none =>
          rw [List.filterMap_cons_none (by rw [hj]; rfl), ih]
          by_cases hi : i = j
          · simp [hi, hj]
          · simp [hi]
      | some u =>
          rw [List.filterMap_cons_some (by rw [hj]; rfl), List.foldl_cons, ih, Replica.apply,
            Function.update_apply, hp j u hj]
          by_cases hi : i = j
          · simp [hi, hj, UeEvent.left?]
          · simp [hi]

end Population

namespace Feed

variable {f g : Feed} {e : UeEvent}

structure Open (f : Feed) : Prop where
  listed : f.listed = true
  forwarding : f.forwarding = true
  receiving : f.receiving = true

/-- What becomes of a feed when an event is told. -/
inductive Hears (e : UeEvent) (f : Feed) : Feed → Prop
  | queued (hl : f.listed = true) (hf : f.forwarding = true) :
      Hears e f { f with queue := f.queue ++ [e] }
  | struck (hl : f.listed = true) (hf : f.forwarding = false) : Hears e f { f with listed := false }
  | apart (hl : f.listed = false) : Hears e f f

theorem hears_notify (e : UeEvent) (f : Feed) : f.Hears e (f.notify e) := by
  rw [notify]
  split
  · rename_i hl
    split
    · rename_i hf
      exact .queued hl hf
    · rename_i hf
      exact .struck hl (Bool.eq_false_iff.2 hf)
  · rename_i hl
    exact .apart (Bool.eq_false_iff.2 hl)

theorem Hears.listed_iff (h : f.Hears e g) :
    g.listed = true ↔ f.listed = true ∧ f.forwarding = true := by
  cases h with
  | queued hl hf => exact ⟨fun _ => ⟨hl, hf⟩, fun _ => hl⟩
  | struck hl hf => simp [hf]
  | apart hl => simp [hl]

theorem Hears.handle (h : f.Hears e g) : g.handle = f.handle := by
  cases h <;> rfl

theorem handle_notify (e : UeEvent) (f : Feed) : (f.notify e).handle = f.handle :=
  (hears_notify e f).handle

theorem handle_tell (es : List UeEvent) (f : Feed) : (f.tell es).handle = f.handle := by
  induction es generalizing f with
  | nil => rfl
  | cons e es ih => exact (ih _).trans (handle_notify e f)

inductive Forwarded (f : Feed) : Feed → Prop
  | put (e : UeEvent) (hr : f.receiving = true) :
      Forwarded f { f with held := none, sink := f.sink ++ [e] }
  | abandoned (hr : f.receiving = false) : Forwarded f f.abandon
  | taken (e : UeEvent) (rest : List UeEvent) : Forwarded f { f with held := some e, queue := rest }
  | ended (hl : f.listed = false) : Forwarded f { f with forwarding := false }

theorem forwarded_of_forward? (h : f.forward? = some g) : f.Forwarded g := by
  rw [forward?] at h
  split at h
  · split at h
    · split at h
      · rename_i e _ hr
        split at h
        · cases h
          exact .put e hr
        · cases h
      · rename_i hr
        cases h
        exact .abandoned (Bool.eq_false_iff.2 hr)
    · split at h
      · cases h
        exact .taken _ _
      · split at h
        · cases h
        · rename_i hl
          cases h
          exact .ended (Bool.eq_false_iff.2 hl)
  · cases h

theorem handle_of_forward? (h : f.forward? = some g) : g.handle = f.handle := by
  cases forwarded_of_forward? h <;> rfl

theorem handle_forward (n : Nat) (f : Feed) : (f.forward n).handle = f.handle := by
  induction n generalizing f with
  | zero => rfl
  | succ n ih =>
      rw [forward]
      split
      · rename_i g hg
        exact (ih g).trans (handle_of_forward? hg)
      · rfl

theorem handle_settle (f : Feed) : f.settle.handle = f.handle := handle_forward _ f

theorem Open.notify (h : f.Open) (e : UeEvent) :
    (f.notify e).Open ∧ (f.notify e).pending = f.pending ++ [e] := by
  have he : f.notify e = { f with queue := f.queue ++ [e] } := by
    rw [Feed.notify, if_pos h.listed, if_pos h.forwarding]
  rw [he, pending, pending, ← List.append_assoc]
  exact ⟨⟨h.listed, h.forwarding, h.receiving⟩, rfl⟩

theorem Open.tell (h : f.Open) (es : List UeEvent) :
    (f.tell es).Open ∧ (f.tell es).pending = f.pending ++ es := by
  induction es generalizing f with
  | nil => exact ⟨h, (List.append_nil _).symm⟩
  | cons e es ih =>
      obtain ⟨ho, hp⟩ := h.notify e
      obtain ⟨ho', hp'⟩ := ih ho
      refine ⟨ho', hp'.trans ?_⟩
      rw [hp, List.append_assoc]
      rfl

theorem Open.forward? (h : f.Open) (hg : f.forward? = some g) :
    g.Open ∧ g.handle = f.handle ∧ g.pending = f.pending := by
  rw [Feed.forward?, if_pos h.forwarding] at hg
  cases hh : f.held with
  | some e =>
      simp only [hh, h.receiving, if_true] at hg
      split at hg
      · cases hg
        exact ⟨⟨h.listed, h.forwarding, rfl⟩, rfl, by simp [pending, hh]⟩
      · cases hg
  | none =>
      cases hq : f.queue with
      | nil => simp [hh, hq, h.listed] at hg
      | cons e rest =>
          simp only [hh, hq, Option.some.injEq] at hg
          subst hg
          exact ⟨⟨h.listed, h.forwarding, h.receiving⟩, rfl, by simp [pending, hh, hq]⟩

theorem Open.receive? (h : f.Open) (hg : f.receive? = some (e, g)) :
    g.Open ∧ g.handle = f.handle ∧ f.pending = e :: g.pending := by
  rw [Feed.receive?] at hg
  split at hg
  · rename_i e' rest hs
    cases hg
    exact ⟨⟨h.listed, h.forwarding, h.receiving⟩, rfl, by simp [pending, hs]⟩
  · cases hg

end Feed

end E2Node
