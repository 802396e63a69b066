import E2Node.Proofs.Population.Replica

namespace E2Node

namespace Feed

structure Kept (f : Feed) : Prop where
  receiving : f.receiving = true
  room : f.sink.length ≤ f.capacity
  ended : f.forwarding = false → f.listed = false ∧ f.held = none ∧ f.queue = []

structure Leads (f g : Feed) : Prop where
  kept : g.Kept
  handle : g.handle = f.handle
  listed : g.listed = f.listed
  capacity : g.capacity = f.capacity

/-- The steps that the forwarder has left. -/
def work (f : Feed) : Nat :=
  2 * f.queue.length + (f.held.map fun _ => 1).getD 0 + if f.forwarding then 1 else 0

variable {f g g' : Feed} {e : UeEvent} {es : List UeEvent} {n : Nat}

theorem Leads.refl (h : f.Kept) : Leads f f := ⟨h, rfl, rfl, rfl⟩

theorem Leads.trans (h : Leads f g) (h' : Leads g g') : Leads f g' :=
  ⟨h'.kept, h'.handle.trans h.handle, h'.listed.trans h.listed, h'.capacity.trans h.capacity⟩

namespace Kept

theorem forwarding (h : f.Kept) (hl : f.listed = true) : f.forwarding = true := by
  by_contra hf
  have hu := (h.ended (Bool.eq_false_iff.2 hf)).1
  simp [hl] at hu

theorem notify (h : f.Kept) (e : UeEvent) :
    Leads f (f.notify e) ∧ (f.notify e).pending = f.pending ++ if f.listed then [e] else [] := by
  rw [Feed.notify]
  split
  · rename_i hl
    have hf := h.forwarding hl
    rw [if_pos hf]
    refine ⟨⟨⟨h.receiving, h.room, fun hn => ?_⟩, rfl, rfl, rfl⟩, ?_⟩
    · simp [hf] at hn
    · rw [pending, pending, ← List.append_assoc]
  · exact ⟨.refl h, (List.append_nil _).symm⟩

theorem tell (h : f.Kept) (es : List UeEvent) :
    Leads f (f.tell es) ∧ (f.tell es).pending = f.pending ++ if f.listed then es else [] := by
  induction es generalizing f with
  | nil => exact ⟨.refl h, by simp [Feed.tell]⟩
  | cons e es ih =>
      obtain ⟨hl, hp⟩ := h.notify e
      obtain ⟨hl', hp'⟩ := ih hl.kept
      refine ⟨hl.trans hl', hp'.trans ?_⟩
      rw [hp, hl.listed]
      split <;> simp

theorem unlist (h : f.Kept) : f.unlist.Kept :=
  ⟨h.receiving, h.room, fun hf => ⟨rfl, (h.ended hf).2⟩⟩

theorem forward? (h : f.Kept) (hg : f.forward? = some g) :
    Leads f g ∧ g.pending = f.pending ∧ g.work < f.work := by
  rw [Feed.forward?] at hg
  split at hg
  · rename_i hf
    cases hh : f.held with
    | some e =>
        simp only [hh, h.receiving, if_true] at hg
        split at hg
        · rename_i hr
          cases hg
          refine ⟨⟨⟨rfl, ?_, fun hn => ?_⟩, rfl, rfl, rfl⟩, by simp [pending, hh],
            by simp [work, hh]⟩
          · rw [List.length_append]
            exact hr
          · simp [hf] at hn
        · cases hg
    | none =>
        cases hq : f.queue with
        | cons e rest =>
            simp only [hh, hq, Option.some.injEq] at hg
            subst hg
            refine ⟨⟨⟨h.receiving, h.room, fun hn => ?_⟩, rfl, rfl, rfl⟩,
              by simp [pending, hh, hq], ?_⟩
            · simp [hf] at hn
            · simp [work, hh, hq]
              omega
        | nil =>
            simp only [hh, hq] at hg
            split at hg
            · cases hg
            · rename_i hl
              cases hg
              refine ⟨⟨⟨h.receiving, h.room, fun _ => ⟨by simpa using hl, ?_, ?_⟩⟩, rfl, rfl,
                rfl⟩, ?_, ?_⟩ <;> simp [pending, work, hh, hq, hf]
  · cases hg

theorem receive? (h : f.Kept) (hg : f.receive? = some (e, g)) :
    Leads f g ∧ f.pending = e :: g.pending := by
  rw [Feed.receive?] at hg
  split at hg
  · rename_i e' rest hs
    cases hg
    have hr := h.room
    rw [hs, List.length_cons] at hr
    exact ⟨⟨⟨h.receiving, Nat.le_of_succ_le hr, h.ended⟩, rfl, rfl, rfl⟩, by simp [pending, hs]⟩
  · cases hg

theorem forward (h : f.Kept) (hn : f.work ≤ n) :
    Leads f (f.forward n) ∧ (f.forward n).pending = f.pending ∧ (f.forward n).forward? = none := by
  induction n generalizing f with
  | zero =>
      refine ⟨.refl h, rfl, ?_⟩
      rw [Feed.forward, Feed.forward?, if_neg]
      intro hf
      simp [work, hf] at hn
  | succ n ih =>
      rw [Feed.forward]
      cases hg : f.forward? with
      | none => exact ⟨.refl h, rfl, hg⟩
      | some g =>
          obtain ⟨hl, hp, hw⟩ := h.forward? hg
          obtain ⟨hl', hp', hw'⟩ := ih hl.kept (by omega)
          exact ⟨hl.trans hl', hp'.trans hp, hw'⟩

theorem settle (h : f.Kept) :
    Leads f f.settle ∧ f.settle.pending = f.pending ∧ f.settle.forward? = none := by
  refine h.forward ?_
  rw [work]
  cases f.held <;> simp <;> split <;> omega

theorem rests (h : f.Kept) (hc : 0 < f.capacity) (hw : f.forward? = none) (hs : f.sink = []) :
    f.pending = [] ∧ f.forwarding = f.listed := by
  rw [Feed.forward?] at hw
  split at hw
  · rename_i hf
    cases hh : f.held with
    | some e => simp [hh, h.receiving, hs, hc] at hw
    | none =>
        cases hq : f.queue with
        | cons e rest => simp [hh, hq] at hw
        | nil =>
            refine ⟨by simp [pending, hs, hh, hq], ?_⟩
            simpa [hh, hq, hf] using hw
  · rename_i hf
    have hf := Bool.eq_false_iff.2 hf
    obtain ⟨hl, hh, hq⟩ := h.ended hf
    exact ⟨by simp [pending, hs, hh, hq], hf.trans hl.symm⟩

theorem drain (h : f.Kept) (hc : 0 < f.capacity) :
    ∃ g, f.drain (f.pending.length + 1) = (f.pending, !f.listed, g) := by
  induction hes : f.pending generalizing f with
  | nil =>
      obtain ⟨hl, hp, hw⟩ := h.settle
      have hs : f.settle.sink = [] := by
        rw [hes, pending, List.append_assoc, List.append_eq_nil_iff] at hp
        exact hp.1
      have hf := (hl.kept.rests (by rwa [hl.capacity]) hw hs).2
      refine ⟨f.settle, ?_⟩
      simp [Feed.drain, Feed.receive?, isClosed, hs, hf, hl.listed]
  | cons e es ih =>
      obtain ⟨hl, hp, hw⟩ := h.settle
      cases hr : f.settle.receive? with
      | none =>
          have hs : f.settle.sink = [] := by
            rw [Feed.receive?] at hr
            split at hr
            · cases hr
            · assumption
          have hn := (hl.kept.rests (by rwa [hl.capacity]) hw hs).1
          simp [hn, hes] at hp
      | some r =>
          obtain ⟨hl', hp'⟩ := hl.kept.receive? hr
          rw [hp, hes] at hp'
          cases hp'
          obtain ⟨g, hg⟩ := ih hl'.kept (by rwa [hl'.capacity, hl.capacity]) rfl
          refine ⟨g, ?_⟩
          rw [List.length_cons, Feed.drain, hr]
          simp only [hg, hl'.listed, hl.listed]

end Kept

end Feed

namespace Population

inductive Occurrence
  | told (es : List UeEvent)
  | unwatched
  deriving DecidableEq

def announced : List Occurrence → List UeEvent
  | [] => []
  | .told es :: os => es ++ announced os
  | .unwatched :: _ => []

/-- What may happen while a watcher keeps its receiver: calls, with how they end, steps of its
forwarder, receives, an end of its watch, and anything that other watchers do. -/
inductive Delivering (h : WatchHandle) (p : Population) :
    List Occurrence → List UeEvent → Population → Prop
  | refl : Delivering h p [] [] p
  | done {os received q q'} (hd : Delivering h p os received q) (c : Call)
      (hc : c.end? q = some (.ok q')) : Delivering h p (os ++ [.told (c.events q q')]) received q'
  | failed {os received q e} (hd : Delivering h p os received q) (c : Call)
      (hc : c.end? q = some (.error e)) : Delivering h p os received q
  | forward {os received q f g} (hd : Delivering h p os received q) (hf : q.feed? h = some f)
      (hg : f.forward? = some g) : Delivering h p os received (q.modifyFeed h fun _ => g)
  | receive {os received q f e g} (hd : Delivering h p os received q) (hf : q.feed? h = some f)
      (hg : f.receive? = some (e, g)) :
      Delivering h p os (received ++ [e]) (q.modifyFeed h fun _ => g)
  | unwatch {os received q} (hd : Delivering h p os received q) :
      Delivering h p (os ++ [.unwatched]) received (q.unwatch h).2
  | watch {os received q} (hd : Delivering h p os received q) (capacity : Nat) (o : WatchOptions)
      (order : Shuffle) : Delivering h p os received (q.watch capacity o order).2
  | others {os received q} (hd : Delivering h p os received q) (change : Feed → Feed)
      (hh : ∀ d, (change d).handle = d.handle) (hc : ∀ d, d.handle = h → change d = d) :
      Delivering h p os received { q with feeds := q.feeds.map change }

/-- Where the events are that a watcher is to receive, and whether its sink is still held. -/
structure Delivered (o : WatchOptions) (replayed : List UeEvent) (capacity : Nat)
    (os : List Occurrence) (received : List UeEvent) (f : Feed) : Prop where
  log : received ++ f.sink ++ f.held.toList ++ f.queue =
    replayed ++ if o.monitor then announced os else []
  room : f.sink.length ≤ capacity
  listed : f.listed = true ↔ o.monitor = true ∧ .unwatched ∉ os
  ended : f.forwarding = false → f.listed = false ∧ f.held = none ∧ f.queue = []
  ends : f.forwarding = true → f.listed = false → f.held = none → f.queue = [] →
    f.forward? = some { f with forwarding := false }
  drained : 0 < capacity →
    ∃ g, f.drain (f.pending.length + 1) = (f.pending, !f.listed, g)

structure Carries (o : WatchOptions) (replayed : List UeEvent) (capacity : Nat) (h : WatchHandle)
    (os : List Occurrence) (received : List UeEvent) (q : Population) (f : Feed) : Prop where
  feed : q.feed? h = some f
  keyed : q.Keyed
  kept : f.Kept
  capacity : f.capacity = capacity
  listed : f.listed = true ↔ o.monitor = true ∧ .unwatched ∉ os
  log : received ++ f.pending = replayed ++ if o.monitor then announced os else []

variable {p q q' : Population} {h : WatchHandle} {f g : Feed} {os : List Occurrence}
  {es received replayed : List UeEvent} {o : WatchOptions} {capacity : Nat}

theorem announced_told (os : List Occurrence) (es : List UeEvent) :
    announced (os ++ [.told es]) = announced os ++ if .unwatched ∈ os then [] else es := by
  induction os with
  | nil => simp [announced]
  | cons x os ih =>
      cases x with
      | told fs => simp [announced, ih]
      | unwatched => simp [announced]

theorem announced_unwatched (os : List Occurrence) :
    announced (os ++ [.unwatched]) = announced os := by
  induction os with
  | nil => rfl
  | cons x os ih =>
      cases x with
      | told fs => simp only [List.cons_append, announced, ih]
      | unwatched => rfl

namespace Carries

theorem told (hc : Carries o replayed capacity h os received q f) (ht : Told q es q') :
    Carries o replayed capacity h (os ++ [.told es]) received q' (f.tell es) := by
  obtain ⟨hl, hp⟩ := hc.kept.tell es
  refine ⟨?_, ht.keyed hc.keyed, hl.kept, hl.capacity.trans hc.capacity, ?_, ?_⟩
  · rw [ht.feed?, hc.feed, Option.map_some]
  · rw [hl.listed, hc.listed]
    simp
  · rw [hp, ← List.append_assoc, hc.log, announced_told]
    by_cases hm : o.monitor = true
    · simp [hc.listed, hm]
    · simp [hc.listed, hm]

theorem moved (hc : Carries o replayed capacity h os received q f) (hl : Feed.Leads f g)
    {received' : List UeEvent} (hp : received' ++ g.pending = received ++ f.pending) :
    Carries o replayed capacity h os received' (q.modifyFeed h fun _ => g) g :=
  ⟨feed?_modifyFeed hc.feed hl.handle, hc.keyed, hl.kept, hl.capacity.trans hc.capacity,
    by rw [hl.listed, hc.listed], hp.trans hc.log⟩

theorem unwatched (hc : Carries o replayed capacity h os received q f) :
    Carries o replayed capacity h (os ++ [.unwatched]) received (q.unwatch h).2 f.unlist := by
  refine ⟨?_, hc.keyed, hc.kept.unlist, hc.capacity, ?_, ?_⟩
  · have hh := handle_of_feed? hc.feed
    rw [unwatch, modifyFeed, feed?_map, hc.feed, Option.map_some, if_pos hh]
    intro d
    split <;> rfl
  · simp [Feed.unlist]
  · rw [announced_unwatched]
    exact hc.log

theorem delivered (hc : Carries o replayed capacity h os received q f) :
    Delivered o replayed capacity os received f where
  log := by
    rw [List.append_assoc, List.append_assoc, ← List.append_assoc f.sink]
    exact hc.log
  room := hc.capacity ▸ hc.kept.room
  listed := hc.listed
  ended := hc.kept.ended
  ends hf hl hh hq := by simp [Feed.forward?, hf, hl, hh, hq]
  drained hlt := hc.kept.drain (hc.capacity ▸ hlt)

end Carries

theorem Delivering.carries (h₀ : ∃ f, Carries o replayed capacity h [] [] p f)
    (hd : Delivering h p os received q) : ∃ f, Carries o replayed capacity h os received q f := by
  induction hd with
  | refl => exact h₀
  | done _ c hc ih =>
      obtain ⟨f, hf⟩ := ih
      exact ⟨_, hf.told (told_end hf.keyed hc)⟩
  | failed _ _ _ ih => exact ih
  | forward _ hf hg ih =>
      obtain ⟨f, hc⟩ := ih
      cases hf.symm.trans hc.feed
      obtain ⟨hl, hp, -⟩ := hc.kept.forward? hg
      exact ⟨_, hc.moved hl (by rw [hp])⟩
  | receive _ hf hg ih =>
      obtain ⟨f, hc⟩ := ih
      cases hf.symm.trans hc.feed
      obtain ⟨hl, hp⟩ := hc.kept.receive? hg
      exact ⟨_, hc.moved hl (by simp [hp])⟩
  | unwatch _ ih =>
      obtain ⟨f, hc⟩ := ih
      exact ⟨_, hc.unwatched⟩
  | watch _ cap o' order ih =>
      obtain ⟨f, hc⟩ := ih
      exact ⟨f, feed?_watch_of_some hc.feed _ _ _, hc.keyed, hc.kept, hc.capacity, hc.listed,
        hc.log⟩
  | others _ change hh hd ih =>
      obtain ⟨f, hc⟩ := ih
      refine ⟨f, ?_, hc.keyed, hc.kept, hc.capacity, hc.listed, hc.log⟩
      rw [feed?_map hh, hc.feed, Option.map_some, hd f (handle_of_feed? hc.feed)]

theorem Reached.carries (hp : p.Reached) (o : WatchOptions) (capacity : Nat) (order : Shuffle) :
    ∃ f, Carries o (if o.replay then p.replay order else []) capacity
      (p.watch capacity o order).1 [] [] (p.watch capacity o order).2 f :=
  ⟨_, hp.feed?_watch capacity o order, hp.keyed, ⟨rfl, Nat.zero_le _, nofun⟩, rfl, by simp,
    by simp [Feed.pending, announced]⟩

/-- At any moment the events that were received, then those in the sink, the one in the hands of
the forwarder and those in the queue are the replay and the events of all calls since, in order.
The sink is released after the last event that there can be, and not before. -/
theorem delivered_in_order (hp : p.Reached) {order : Shuffle}
    (hd : Delivering (p.watch capacity o order).1 (p.watch capacity o order).2 os received q) :
    (p.replay order).Perm (p.ues.values.map (UeEvent.mk .present)) ∧
      ∃ f, q.feed? (p.watch capacity o order).1 = some f ∧
        Delivered o (if o.replay then p.replay order else []) capacity os received f := by
  obtain ⟨f, hc⟩ := hd.carries (hp.carries o capacity order)
  exact ⟨replay_perm p order, f, hc.feed, hc.delivered⟩

theorem unwatched_delivered :
    let c : Cell := ⟨⟨0x11⟩, .origin, none, 99, .zero⟩
    let p := empty.insertNew c (.numbered 0)
    let o : WatchOptions := ⟨true, true⟩
    let w := p.watch 1 o .none
    ∃ os received q f, Delivering w.1 w.2 os received q ∧ q.feed? w.1 = some f ∧
      received.map UeEvent.change = [.present] ∧ f.sink = [] ∧
      f.held.map UeEvent.change = some .added ∧ f.queue.map UeEvent.change = [.added] ∧
      Delivered o (p.replay .none) 1 os received f ∧ ∃ g, f.drain 3 = (f.pending, true, g) := by
  intro c p o w
  let src : CellSource Unit := ⟨fun s => (.ok c, s), fun _ _ => true⟩
  let d := Draw.numbered 1
  let d' := Draw.numbered 2
  let e : UeEvent := ⟨.added, .fresh d.imsi p.nextCrnti (.by c.ecgi d.strength)⟩
  let e' : UeEvent := ⟨.added, .fresh d'.imsi p.nextCrnti.next (.by c.ecgi d'.strength)⟩
  let f₀ : Feed := ⟨w.1, true, p.replay .none, none, true, [], 1, true⟩
  let f₁ : Feed := ⟨w.1, true, [], none, true, [], 1, true⟩
  let f₂ : Feed := ⟨w.1, true, [e'], some e, true, [], 1, true⟩
  let q₁ := ((w.2.modifyFeed w.1 fun _ => f₀.forward 1).modifyFeed w.1
    fun _ => f₀.forward 2).modifyFeed w.1 fun _ => f₁
  let q₂ := ((q₁.insertNew c d).insertNew c d').modifyFeed w.1 fun _ => f₂
  let q₃ := (q₂.unwatch w.1).2.discard d.imsi
  have hp : p.Reached := Reached.empty.call (.create src () 1 [.numbered 0]) rfl
  have h₁ : Delivering w.1 w.2 [] (p.replay .none) q₁ :=
    ((Delivering.refl.forward (f := f₀) rfl rfl).forward (f := f₀.forward 1) rfl rfl).receive
      (f := f₀.forward 2) rfl rfl
  have h₂ : ∃ os, Delivering w.1 w.2 os (p.replay .none) q₂ :=
    ⟨_, (h₁.done (.create src () 2 [d, d']) rfl).forward
      (f := ⟨w.1, true, [e, e'], none, true, [], 1, true⟩) rfl rfl⟩
  obtain ⟨os₂, h₂⟩ := h₂
  have hc : (Call.destroy d.imsi).end? (q₂.unwatch w.1).2 = some (.ok q₃) := rfl
  have h₃ := h₂.unwatch.done (.destroy d.imsi) hc
  obtain ⟨-, f, hf, hd⟩ := delivered_in_order hp h₃
  have hplaces : (q₃.feed? w.1).map (fun f => (f.sink, f.held.map UeEvent.change,
      f.queue.map UeEvent.change, f.pending.length, f.listed)) =
        some ([], some .added, [.added], 2, false) := by decide
  rw [hf] at hplaces
  simp only [Option.map_some, Option.some.injEq, Prod.mk.injEq] at hplaces
  obtain ⟨hs, hh, hq, hl, hn⟩ := hplaces
  have hdrain := hd.drained (by decide)
  rw [hl, hn] at hdrain
  exact ⟨_, _, q₃, f, h₃, hf, rfl, hs, hh, hq, hd, hdrain⟩

end Population

end E2Node
