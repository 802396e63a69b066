import E2Node.Proofs.Population.Feeds
import Mathlib.Data.List.Forall2

namespace E2Node.Population

/-- The populations that there can be. Anything may happen to the feeds, but they keep their
handles. -/
inductive Reached : Population → Prop
  | empty : Reached empty
  | call {p q} (hp : Reached p) (c : Call) (hc : c.end? p = some (.ok q)) : Reached q
  | watch {p} (hp : Reached p) (capacity : Nat) (o : WatchOptions) (order : Shuffle) :
      Reached (p.watch capacity o order).2
  | feeds {p} (hp : Reached p) (change : Feed → Feed) (hh : ∀ d, (change d).handle = d.handle) :
      Reached { p with feeds := p.feeds.map change }

/-- What may happen while a watcher receives: calls, with how they end, and anything that other
watchers do. -/
inductive Watched (h : WatchHandle) (p : Population) :
    List Bool → List UeEvent → Population → Prop
  | refl : Watched h p [] [] p
  | done {ends received q q'} (hw : Watched h p ends received q) (c : Call)
      (hc : c.end? q = some (.ok q')) : Watched h p (ends ++ [true]) received q'
  | failed {ends received q e} (hw : Watched h p ends received q) (c : Call)
      (hc : c.end? q = some (.error e)) : Watched h p (ends ++ [false]) received q
  | forward {ends received q f g} (hw : Watched h p ends received q) (hf : q.feed? h = some f)
      (hg : f.forward? = some g) : Watched h p ends received (q.modifyFeed h fun _ => g)
  | receive {ends received q f e g} (hw : Watched h p ends received q) (hf : q.feed? h = some f)
      (hg : f.receive? = some (e, g)) :
      Watched h p ends (received ++ [e]) (q.modifyFeed h fun _ => g)
  | watch {ends received q} (hw : Watched h p ends received q) (capacity : Nat) (o : WatchOptions)
      (order : Shuffle) : Watched h p ends received (q.watch capacity o order).2
  | others {ends received q} (hw : Watched h p ends received q) (change : Feed → Feed)
      (hh : ∀ d, (change d).handle = d.handle) (hc : ∀ d, d.handle = h → change d = d) :
      Watched h p ends received { q with feeds := q.feeds.map change }

variable {p q : Population} {h : WatchHandle} {f g : Feed} {ends : List Bool}
  {received : List UeEvent}

theorem Reached.keyed (hp : p.Reached) : p.Keyed := by
  induction hp with
  | empty => exact nofun
  | call _ c hc ih => exact (told_end ih hc).keyed ih
  | watch _ _ _ _ ih => exact ih
  | feeds _ _ _ ih => exact ih

theorem Reached.handle_lt (hp : p.Reached) : ∀ d ∈ p.feeds, d.handle.val < p.nextHandle.val := by
  induction hp with
  | empty => exact nofun
  | call hp c hc ih =>
      have ht := told_end hp.keyed hc
      intro d hd
      rw [ht.feeds] at hd
      obtain ⟨d', hd', rfl⟩ := List.mem_map.1 hd
      rw [Feed.handle_tell, ht.nextHandle]
      exact ih d' hd'
  | watch _ _ _ _ ih =>
      intro d hd
      rcases List.mem_append.1 hd with hd | hd
      · exact Nat.lt_succ_of_lt (ih d hd)
      · rw [List.mem_singleton.1 hd]
        exact Nat.lt_succ_self _
  | feeds _ change hh ih =>
      intro d hd
      obtain ⟨d', hd', rfl⟩ := List.mem_map.1 hd
      rw [hh]
      exact ih d' hd'

theorem handle_of_feed? (hf : q.feed? h = some f) : f.handle = h :=
  of_decide_eq_true (List.find?_some (p := fun d : Feed => decide (d.handle = h)) hf)

theorem feed?_map {change : Feed → Feed} (hh : ∀ d, (change d).handle = d.handle) :
    feed? { q with feeds := q.feeds.map change } h = (q.feed? h).map change := by
  rw [feed?, feed?, List.find?_map]
  simp only [Function.comp_def, hh]

theorem feed?_modifyFeed_eq_ite (p : Population) (h h' : WatchHandle) {change : Feed → Feed}
    (hh : ∀ d, d.handle = h → (change d).handle = h) :
    (p.modifyFeed h change).feed? h' =
      if h' = h then (p.feed? h').map change else p.feed? h' := by
  rw [modifyFeed, feed?_map]
  · cases hf : p.feed? h' with
    | none => simp
    | some d =>
        simp only [Option.map_some, handle_of_feed? hf]
        split <;> rfl
  · intro d
    split
    · rename_i hd
      rw [hh d hd, hd]
    · rfl

theorem feed?_modifyFeed (hf : q.feed? h = some f) (hg : g.handle = f.handle) :
    (q.modifyFeed h fun _ => g).feed? h = some g := by
  rw [feed?_modifyFeed_eq_ite q h h fun _ _ => hg.trans (handle_of_feed? hf), if_pos rfl, hf]
  rfl

theorem feed?_watch_of_some (hf : q.feed? h = some f) (capacity : Nat) (o : WatchOptions)
    (order : Shuffle) : (q.watch capacity o order).2.feed? h = some f := by
  rw [feed?, watch, List.find?_append]
  rw [feed?] at hf
  rw [hf]
  rfl

theorem Told.feed? {es : List UeEvent} {q' : Population} (ht : Told q es q') :
    q'.feed? h = (q.feed? h).map (Feed.tell es) := by
  rw [Population.feed?, ht.feeds]
  exact feed?_map (Feed.handle_tell es)

/-- What the events of each call, in turn, make of a replica. -/
structure Replicates (r : Replica) (ends : List Bool) (told : List (List UeEvent)) (r' : Replica) :
    Prop where
  silent : List.Forall₂ (fun ok es => ok = false → es = []) ends told
  allowed : r.AllowsAll told.flatten
  equal : told.flatten.foldl Replica.apply r = r'

theorem Replicates.failed {r r' : Replica} {told : List (List UeEvent)}
    (hr : Replicates r ends told r') : Replicates r (ends ++ [false]) (told ++ [[]]) r' where
  silent := List.rel_append hr.silent (.cons (fun _ => rfl) .nil)
  allowed := by simpa using hr.allowed
  equal := by simpa using hr.equal

theorem Replicates.done {r : Replica} {told : List (List UeEvent)} {q' : Population}
    {es : List UeEvent} (hr : Replicates r ends told q.ues.get?) (ht : Told q es q') :
    Replicates r (ends ++ [true]) (told ++ [es]) q'.ues.get? where
  silent := List.rel_append hr.silent (.cons nofun .nil)
  allowed := by
    rw [List.flatten_append, List.flatten_singleton, Replica.allowsAll_append, hr.equal]
    exact ⟨hr.allowed, ht.allowsAll⟩
  equal := by
    rw [List.flatten_append, List.flatten_singleton, List.foldl_append, hr.equal]
    exact ht.ues

structure Follows (r : Replica) (replayed : List UeEvent) (h : WatchHandle) (ends : List Bool)
    (received : List UeEvent) (q : Population) (f : Feed) (told : List (List UeEvent)) : Prop where
  feed : q.feed? h = some f
  isOpen : f.Open
  keyed : q.Keyed
  log : received ++ f.pending = replayed ++ told.flatten
  replicates : Replicates r ends told q.ues.get?

theorem Watched.follows {r : Replica} {replayed : List UeEvent}
    (h₀ : ∃ f, Follows r replayed h [] [] p f []) (hw : Watched h p ends received q) :
    ∃ f told, Follows r replayed h ends received q f told := by
  induction hw with
  | refl =>
      obtain ⟨f, h⟩ := h₀
      exact ⟨f, [], h⟩
  | done hw c hc ih =>
      obtain ⟨f, told, h⟩ := ih
      have ht := told_end h.keyed hc
      obtain ⟨ho, hp⟩ := h.isOpen.tell (c.events _ _)
      refine ⟨_, _, ?_, ho, ht.keyed h.keyed, ?_, h.replicates.done ht⟩
      · rw [ht.feed?, h.feed, Option.map_some]
      · rw [hp, ← List.append_assoc, h.log, List.flatten_append, List.flatten_singleton,
          List.append_assoc]
  | failed hw c hc ih =>
      obtain ⟨f, told, h⟩ := ih
      refine ⟨f, _, h.feed, h.isOpen, h.keyed, ?_, h.replicates.failed⟩
      rw [h.log, List.flatten_append, List.flatten_singleton, List.append_nil]
  | forward hw hf hg ih =>
      obtain ⟨f, told, h⟩ := ih
      obtain rfl := Option.some.inj (h.feed.symm.trans hf)
      obtain ⟨ho, hh, hp⟩ := h.isOpen.forward? hg
      exact ⟨_, told, feed?_modifyFeed hf hh, ho, h.keyed, by rw [hp]; exact h.log, h.replicates⟩
  | receive hw hf hg ih =>
      obtain ⟨f, told, h⟩ := ih
      obtain rfl := Option.some.inj (h.feed.symm.trans hf)
      obtain ⟨ho, hh, hp⟩ := h.isOpen.receive? hg
      refine ⟨_, told, feed?_modifyFeed hf hh, ho, h.keyed, ?_, h.replicates⟩
      rw [← h.log, hp, List.append_assoc]
      rfl
  | watch hw capacity o order ih =>
      obtain ⟨f, told, h⟩ := ih
      exact ⟨f, told, feed?_watch_of_some h.feed _ _ _, h.isOpen, h.keyed, h.log, h.replicates⟩
  | others hw change hh hc ih =>
      obtain ⟨f, told, h⟩ := ih
      refine ⟨f, told, ?_, h.isOpen, h.keyed, h.log, h.replicates⟩
      rw [feed?_map hh, h.feed, Option.map_some, hc f (handle_of_feed? h.feed)]

theorem feed?_nextHandle (hp : ∀ d ∈ p.feeds, d.handle.val < p.nextHandle.val) :
    p.feed? p.nextHandle = none := by
  refine List.find?_eq_none.2 fun d hd => ?_
  have hlt := hp d hd
  rw [decide_eq_true_iff]
  intro he
  rw [he] at hlt
  exact absurd hlt (Nat.lt_irrefl _)

def newFeed (p : Population) (capacity : Nat) (o : WatchOptions) (order : Shuffle) : Feed :=
  ⟨p.nextHandle, o.monitor, if o.replay then p.replay order else [], none, true, [], capacity, true⟩

theorem mem_watch_iff {capacity : Nat} {o : WatchOptions} {order : Shuffle} :
    f ∈ (p.watch capacity o order).2.feeds ↔ f ∈ p.feeds ∨ f = p.newFeed capacity o order := by
  rw [← List.mem_singleton, ← List.mem_append]
  rfl

theorem feed?_watch (hp : ∀ d ∈ p.feeds, d.handle.val < p.nextHandle.val) (capacity : Nat)
    (o : WatchOptions) (order : Shuffle) :
    (p.watch capacity o order).2.feed? (p.watch capacity o order).1 =
      some (p.newFeed capacity o order) := by
  have hn := feed?_nextHandle hp
  rw [feed?] at hn
  rw [feed?, Population.watch, List.find?_append, hn]
  simp [newFeed]

theorem Reached.feed?_watch (hp : p.Reached) (capacity : Nat) (o : WatchOptions)
    (order : Shuffle) : (p.watch capacity o order).2.feed? (p.watch capacity o order).1 =
      some ⟨p.nextHandle, o.monitor, if o.replay then p.replay order else [], none, true, [],
        capacity, true⟩ :=
  Population.feed?_watch hp.handle_lt capacity o order

theorem Reached.follows (hp : p.Reached) {o : WatchOptions} (ho : o.monitor = true)
    (capacity : Nat) (order : Shuffle) :
    ∃ f, Follows p.ues.get? (if o.replay then p.replay order else []) (p.watch capacity o order).1
      [] [] (p.watch capacity o order).2 f [] :=
  ⟨_, hp.feed?_watch capacity o order, ⟨ho, rfl, rfl⟩, hp.keyed, by simp [Feed.pending], .nil,
    trivial, rfl⟩

/-- The events sent to a watcher, with those of its replay before them, make its replica the
population. -/
theorem replica_matches (hp : p.Reached) {capacity : Nat} {o : WatchOptions} {order : Shuffle}
    (ho : o.monitor = true)
    (hw : Watched (p.watch capacity o order).1 (p.watch capacity o order).2 ends received q) :
    (p.replay order).Perm (p.ues.values.map (UeEvent.mk .present)) ∧
      (p.replay order).foldl Replica.apply Replica.empty = p.ues.get? ∧
      ∃ f told, q.feed? (p.watch capacity o order).1 = some f ∧
        received ++ f.pending = (if o.replay then p.replay order else []) ++ told.flatten ∧
        Replicates p.ues.get? ends told q.ues.get? := by
  obtain ⟨f, told, h⟩ := hw.follows (hp.follows ho capacity order)
  refine ⟨replay_perm p order, ?_, f, told, h.feed, h.log, h.replicates⟩
  funext i
  rw [replay, foldl_replay hp.keyed]
  simp only [(order.perm _).mem_iff, Table.mem_keys_iff, and_self, Replica.empty]
  split
  · rfl
  · rename_i hn
    rw [Option.not_isSome_iff_eq_none.1 hn]

theorem reused_identity_replicated :
    let c : Cell := ⟨⟨0x11⟩, .origin, none, 99, .zero⟩
    let d := Draw.numbered 0
    let p := empty.insertNew c d
    let o : WatchOptions := ⟨true, true⟩
    let w := p.watch 1 o .none
    ∃ received q f told, Watched w.1 w.2 [true, false, true, true] received q ∧
      received.map UeEvent.change = [.present] ∧ q.feed? w.1 = some f ∧
      f.pending.map UeEvent.change = [.updated, .deleted, .added] ∧
      received ++ f.pending = p.replay .none ++ told.flatten ∧
      Replicates p.ues.get? [true, false, true, true] told q.ues.get? := by
  intro c d p o w
  let src : CellSource Unit := ⟨fun s => (.ok c, s), fun _ _ => true⟩
  let f₀ : Feed := ⟨w.1, true, p.replay .none, none, true, [], 1, true⟩
  let f₁ : Feed := { f₀.forward 2 with sink := [] }
  let q₁ := ((w.2.modifyFeed w.1 fun _ => f₀.forward 1).modifyFeed w.1
    fun _ => f₀.forward 2).modifyFeed w.1 fun _ => f₁
  let q₂ := ((q₁.move (fun _ => true) d.imsi ⟨0x12⟩ .zero).toOption).getD q₁
  have hp : p.Reached := Reached.empty.call (.create src () 1 [d]) rfl
  have h₁ : Watched w.1 w.2 [] (p.replay .none) q₁ :=
    ((Watched.refl.forward (f := f₀) rfl rfl).forward (f := f₀.forward 1) rfl rfl).receive
      (f := f₀.forward 2) rfl rfl
  have hm : (Call.move (fun _ => true) d.imsi ⟨0x12⟩ .zero).end? q₁ = some (.ok q₂) := rfl
  have h : Watched w.1 w.2 [true, false, true, true] (p.replay .none)
      ((q₂.discard d.imsi).insertNew c d) :=
    (((h₁.done _ hm).failed (.destroy ⟨1⟩) rfl).done (.destroy d.imsi) rfl).done
      (.create src () 1 [d]) rfl
  obtain ⟨-, -, f, told, hf, hlog, hr⟩ := replica_matches hp rfl h
  have hpend : (((q₂.discard d.imsi).insertNew c d).feed? w.1).map
      (fun f => f.pending.map UeEvent.change) = some [.updated, .deleted, .added] := by decide
  rw [hf] at hpend
  exact ⟨_, _, f, told, h, rfl, hf, Option.some.inj hpend, hlog, hr⟩

end E2Node.Population
