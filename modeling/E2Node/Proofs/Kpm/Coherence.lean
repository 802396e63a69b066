import E2Node.Proofs.Kpm.Moves
import Mathlib.Data.List.Nodup

namespace E2Node.Kpm.Reporting

structure Coherent (s : Reporting) : Prop where
  created : ∀ t ∈ s.tasks, t.ticker.val < s.tickers.created
  raised : ∀ i ∈ s.tickers.stopped, i.val < s.tickers.created
  distinct : (s.tasks.map ReportTask.ticker).Nodup
  positive : ∀ t ∈ s.tasks, t.period ≠ 0
  driven : ∀ key e, s.subscriptions.entries.get? key = some e → e.accepted ≠ [] ∧
    ∃ t ∈ s.tasks, e.ticker = some t.ticker ∧ t.key = key ∧ t.session = e.session
  stored : ∀ t ∈ s.tasks, t.ticker ∉ s.tickers.stopped →
    s.subscriptions.owns t.key t.ticker = true
  leaving : ∀ t ∈ s.tasks, t.ticker ∈ s.tickers.stopped →
    s.subscriptions.owns t.key t.ticker = true → t.phase.Ending
  timely : ∀ t ∈ s.tasks, ∀ r i done, t.phase = .inFlight r i done →
    done ≤ s.now + s.sendDelay t.session

namespace Coherent

variable {k : Service} {s s' : Reporting} {t : ReportTask}

theorem start (p : Population) (epoch : Int) : (Reporting.start p epoch).Coherent where
  created := by simp [Reporting.start]
  raised := by simp [Reporting.start, Tickers.empty]
  distinct := List.nodup_nil
  positive := by simp [Reporting.start]
  driven := by simp [Reporting.start, Subscriptions.get?_empty]
  stored := by simp [Reporting.start]
  leaving := by simp [Reporting.start]
  timely := by simp [Reporting.start]

theorem eq_of_ticker (h : s.Coherent) {t u : ReportTask} (ht : t ∈ s.tasks) (hu : u ∈ s.tasks)
    (he : t.ticker = u.ticker) : t = u :=
  List.inj_on_of_nodup_map h.distinct ht hu he

theorem key_eq (h : s.Coherent) (ht : t ∈ s.tasks) {key : SubscriptionKey} {e : Subscription}
    (he : s.subscriptions.entries.get? key = some e) (hi : e.ticker = some t.ticker) :
    t.key = key := by
  obtain ⟨-, u, hu, hiu, hk, -⟩ := h.driven key e he
  obtain rfl : t = u := h.eq_of_ticker ht hu (Option.some.inj (hi.symm.trans hiu))
  exact hk

theorem owns_of_entry (h : s.Coherent) (ht : t ∈ s.tasks) {key : SubscriptionKey}
    {e : Subscription} (he : s.subscriptions.entries.get? key = some e)
    (hi : e.ticker = some t.ticker) : s.subscriptions.owns t.key t.ticker = true :=
  Subscriptions.owns_iff.2 ⟨e, by rw [h.key_eq ht he hi]; exact he, hi⟩

theorem setPhase (h : s.Coherent) (ht : t ∈ s.tasks) {p : Phase}
    (hp : t.phase.Ending → p.Ending)
    (hd : ∀ r i done, p = .inFlight r i done → done ≤ s.now + s.sendDelay t.session) :
    (s.setPhase t.ticker p).Coherent where
  created x hx := by
    rcases mem_setPhase.1 hx with ⟨hx, -⟩ | ⟨y, hy, -, rfl⟩
    · exact h.created x hx
    · exact h.created y hy
  raised := h.raised
  distinct := by
    rw [map_setPhase (g := ReportTask.ticker) fun _ => rfl]
    exact h.distinct
  positive x hx := by
    rcases mem_setPhase.1 hx with ⟨hx, -⟩ | ⟨y, hy, -, rfl⟩
    · exact h.positive x hx
    · exact h.positive y hy
  driven key e he := by
    obtain ⟨ha, u, hu, hi, hk, hs⟩ := h.driven key e he
    by_cases hut : u.ticker = t.ticker
    · exact ⟨ha, _, mem_setPhase.2 (.inr ⟨u, hu, hut, rfl⟩), hi, hk, hs⟩
    · exact ⟨ha, u, mem_setPhase.2 (.inl ⟨hu, hut⟩), hi, hk, hs⟩
  stored x hx := by
    rcases mem_setPhase.1 hx with ⟨hx, -⟩ | ⟨y, hy, -, rfl⟩
    · exact h.stored x hx
    · exact h.stored y hy
  leaving x hx := by
    rcases mem_setPhase.1 hx with ⟨hx, -⟩ | ⟨y, hy, hi, rfl⟩
    · exact h.leaving x hx
    · intro hs ho
      obtain rfl := h.eq_of_ticker hy ht hi
      exact hp (h.leaving y hy hs ho)
  timely x hx := by
    rcases mem_setPhase.1 hx with ⟨hx, -⟩ | ⟨y, hy, hi, rfl⟩
    · exact h.timely x hx
    · obtain rfl := h.eq_of_ticker hy ht hi
      exact hd

theorem endTask (h : s.Coherent) (ht : t ∈ s.tasks)
    (ho : s.subscriptions.owns t.key t.ticker = false) : (s.endTask t.ticker).Coherent where
  created x hx := h.created x (mem_endTask.1 hx).1
  raised := h.raised
  distinct := h.distinct.sublist (List.filter_sublist.map _)
  positive x hx := h.positive x (mem_endTask.1 hx).1
  driven key e he := by
    obtain ⟨ha, u, hu, hi, hk, hs⟩ := h.driven key e he
    refine ⟨ha, u, mem_endTask.2 ⟨hu, fun hut => ?_⟩, hi, hk, hs⟩
    have := h.owns_of_entry ht he (hi.trans (congrArg some hut))
    simp [ho] at this
  stored x hx := h.stored x (mem_endTask.1 hx).1
  leaving x hx := h.leaving x (mem_endTask.1 hx).1
  timely x hx := h.timely x (mem_endTask.1 hx).1

theorem stop (h : s.Coherent) (ht : t ∈ s.tasks) (hp : t.phase.Ending) :
    Coherent { s with tickers := s.tickers.stop t.ticker } where
  created := h.created
  raised i hi := by
    rcases List.mem_cons.1 hi with rfl | hi
    · exact h.created t ht
    · exact h.raised i hi
  distinct := h.distinct
  positive := h.positive
  driven := h.driven
  stored x hx hn := h.stored x hx fun hs => hn (List.mem_cons_of_mem _ hs)
  leaving x hx hs ho := by
    rcases List.mem_cons.1 hs with hi | hs
    · obtain rfl := h.eq_of_ticker hx ht hi
      exact hp
    · exact h.leaving x hx hs ho
  timely := h.timely

theorem release (h : s.Coherent) (ht : t ∈ s.tasks) : Coherent
    ({ s with subscriptions := s.subscriptions.release t.key t.ticker }.endTask t.ticker) where
  created x hx := h.created x (mem_endTask.1 hx).1
  raised := h.raised
  distinct := h.distinct.sublist (List.filter_sublist.map _)
  positive x hx := h.positive x (mem_endTask.1 hx).1
  driven key e he := by
    simp only [endTask_subscriptions, Subscriptions.get?_release] at he
    split at he
    · cases he
    · rename_i hn
      obtain ⟨ha, u, hu, hi, hk, hs⟩ := h.driven key e he
      refine ⟨ha, u, mem_endTask.2 ⟨hu, fun hut => hn ⟨?_, ?_⟩⟩, hi, hk, hs⟩
      · rw [← hk, h.eq_of_ticker hu ht hut]
      · exact h.owns_of_entry ht he (hi.trans (congrArg some hut))
  stored x hx hs := by
    obtain ⟨hx, hn⟩ := mem_endTask.1 hx
    simpa only [endTask_subscriptions, Subscriptions.owns_release_of_ne hn] using h.stored x hx hs
  leaving x hx hs ho := by
    obtain ⟨hx, hn⟩ := mem_endTask.1 hx
    simp only [endTask_subscriptions, Subscriptions.owns_release_of_ne hn] at ho
    exact h.leaving x hx hs ho
  timely x hx := h.timely x (mem_endTask.1 hx).1

theorem notMem_stopped_next (h : s.Coherent) : s.tickers.next ∉ s.tickers.stopped := fun hm =>
  Nat.lt_irrefl _ (h.raised _ hm)

theorem ticker_ne_next (h : s.Coherent) (ht : t ∈ s.tasks) : t.ticker ≠ s.tickers.next := by
  intro he
  have := h.created t ht
  rw [he] at this
  exact Nat.lt_irrefl _ this

theorem enrol (h : s.Coherent) {key : SubscriptionKey} {accepted : List ActionId}
    {refused : Refusals} {id : SessionId} {period : Nat} (ha : accepted ≠ []) (hp : period ≠ 0)
    (hf : s.subscriptions.entries.get? key = none) : Coherent { s with
      subscriptions := ⟨s.subscriptions.entries.insert key
        ⟨key, accepted, refused, id, some s.tickers.next⟩⟩
      tickers := s.tickers.create
      tasks := s.tasks ++ [⟨key, id, period, s.tickers.next, .starting⟩] } where
  created x hx := by
    rcases List.mem_append.1 hx with hx | hx
    · exact Nat.lt_succ_of_lt (h.created x hx)
    · rw [List.mem_singleton.1 hx]
      exact Nat.lt_succ_self _
  raised i hi := Nat.lt_succ_of_lt (h.raised i hi)
  distinct := by
    rw [List.map_append, List.nodup_append]
    refine ⟨h.distinct, List.nodup_singleton _, ?_⟩
    intro i hi j hj
    obtain ⟨x, hx, rfl⟩ := List.mem_map.1 hi
    rw [List.map_singleton, List.mem_singleton] at hj
    rw [hj]
    exact h.ticker_ne_next hx
  positive x hx := by
    rcases List.mem_append.1 hx with hx | hx
    · exact h.positive x hx
    · rw [List.mem_singleton.1 hx]
      exact hp
  driven key' e he := by
    rw [Table.get?_insert] at he
    split at he
    · subst key'
      cases he
      exact ⟨ha, _, List.mem_append_right _ (List.mem_singleton_self _), rfl, rfl, rfl⟩
    · obtain ⟨ha, u, hu, hi, hk, hs⟩ := h.driven key' e he
      exact ⟨ha, u, List.mem_append_left _ hu, hi, hk, hs⟩
  stored x hx hs := by
    rw [Subscriptions.owns_insert]
    rcases List.mem_append.1 hx with hx | hx
    · have ho := h.stored x hx hs
      obtain ⟨e, he, -⟩ := Subscriptions.owns_iff.1 ho
      have hn : x.key ≠ key := by rintro rfl; rw [hf] at he; cases he
      rw [if_neg hn]
      exact ho
    · simp [List.mem_singleton.1 hx]
  leaving x hx hs ho := by
    rw [Subscriptions.owns_insert] at ho
    rcases List.mem_append.1 hx with hx | hx
    · split at ho
      · exact absurd (Option.some.inj (of_decide_eq_true ho)).symm (h.ticker_ne_next hx)
      · exact h.leaving x hx hs ho
    · rw [List.mem_singleton.1 hx] at hs
      exact absurd hs h.notMem_stopped_next
  timely x hx := by
    rcases List.mem_append.1 hx with hx | hx
    · exact h.timely x hx
    · rw [List.mem_singleton.1 hx]
      simp

theorem withdraw (h : s.Coherent) {key : SubscriptionKey} {e : Subscription} {i : TickerId}
    (he : s.subscriptions.entries.get? key = some e) (hi : e.ticker = some i) : Coherent { s with
      subscriptions := ⟨s.subscriptions.entries.erase key⟩
      tickers := s.tickers.stop i } where
  created := h.created
  raised j hj := by
    obtain ⟨-, u, hu, hiu, -, -⟩ := h.driven key e he
    rcases List.mem_cons.1 hj with rfl | hj
    · rw [Option.some.inj (hi.symm.trans hiu)]
      exact h.created u hu
    · exact h.raised j hj
  distinct := h.distinct
  positive := h.positive
  driven key' e' he' := by
    rw [Table.get?_erase] at he'
    split at he'
    · cases he'
    · exact h.driven key' e' he'
  stored x hx hs := by
    have ho := h.stored x hx fun hm => hs (List.mem_cons_of_mem _ hm)
    rw [Subscriptions.owns_erase]
    split
    · rename_i hk
      obtain ⟨e', he', hi'⟩ := Subscriptions.owns_iff.1 ho
      rw [hk, he] at he'
      cases he'
      exact absurd (List.mem_cons.2 (.inl (Option.some.inj (hi'.symm.trans hi)))) hs
    · exact ho
  leaving x hx hs ho := by
    rw [Subscriptions.owns_erase] at ho
    split at ho
    · cases ho
    · rename_i hk
      rcases List.mem_cons.1 hs with hxi | hs
      · exact absurd (h.key_eq hx he (by rw [hi, hxi])) hk
      · exact h.leaving x hx hs ho
  timely := h.timely

theorem links (h : s.Coherent) {links : List Link}
    (hl : ∀ id, s.sendDelay id ≤ Reporting.sendDelay { s with links := links } id) :
    Coherent { s with links := links } where
  created := h.created
  raised := h.raised
  distinct := h.distinct
  positive := h.positive
  driven := h.driven
  stored := h.stored
  leaving := h.leaving
  timely t ht r i done hp :=
    Nat.le_trans (h.timely t ht r i done hp) (Nat.add_le_add_left (hl t.session) _)

theorem modifyLink (h : s.Coherent) (id : SessionId) {f : Link → Link} (hf : Link.Onward f) :
    (s.modifyLink id f).Coherent :=
  h.links fun id' => Nat.le_of_eq (sendDelay_modifyLink s id id' hf).symm

theorem pass (h : s.Coherent) {now : Nat} (hn : s.now ≤ now) : (s.atTime now).Coherent where
  created := h.created
  raised := h.raised
  distinct := h.distinct
  positive := h.positive
  driven := h.driven
  stored := h.stored
  leaving := h.leaving
  timely t ht r i done hp :=
    Nat.le_trans (h.timely t ht r i done hp) (Nat.add_le_add_right hn _)

theorem populate (h : s.Coherent) (p : Population) : Coherent { s with population := p } :=
  ⟨h.created, h.raised, h.distinct, h.positive, h.driven, h.stored, h.leaving, h.timely⟩

theorem owns_eq_false_of_gone (h : s.Coherent) {r : Rhythm}
    (he : (s.subscriptions.entries.get? t.key).bind (s.reportFor k t r) = none) :
    s.subscriptions.owns t.key t.ticker = false := by
  rw [← Bool.not_eq_true, Subscriptions.owns_iff]
  rintro ⟨e, hg, -⟩
  obtain ⟨ha, -⟩ := h.driven t.key e hg
  rw [hg, Option.bind_some, reportFor] at he
  split at he
  · exact ha ‹_›
  · split at he <;> cases he

theorem taskStep (h : s.Coherent) (ht : t ∈ s.tasks) (hs : TaskStep k s t s') : s'.Coherent := by
  have active {p : Phase} (hp : t.phase = p) (hn : ¬ p.Ending) {q : Phase} :
      t.phase.Ending → q.Ending := fun he => absurd (hp ▸ he) hn
  cases hs with
  | refused hp | lost hp | unbuilt hp | unsent hp | broke hp =>
      exact h.setPhase ht (fun _ => .inl rfl) (by simp)
  | aborted hp h0 => exact absurd h0 (h.positive t ht)
  | began hp | ticked hp | built hp =>
      exact h.setPhase ht (active hp (by simp [Phase.Ending])) (by simp)
  | stopped hp hs =>
      apply h.endTask ht
      rw [← Bool.not_eq_true]
      intro ho
      have := h.leaving t ht (by simpa [Tickers.isStopped] using hs) ho
      simp [hp, Phase.Ending] at this
  | gone hp he => exact h.endTask ht (h.owns_eq_false_of_gone he)
  | sent hp =>
      refine h.setPhase ht (active hp (by simp [Phase.Ending])) ?_
      rintro r i done he
      cases he
      exact Nat.le_refl _
  | arrived hp =>
      exact (h.modifyLink t.session (Link.record_onward s.now _)).setPhase ht
        (active hp (by simp [Phase.Ending])) (by simp)
  | silenced hp => exact (h.stop ht (.inl hp)).setPhase ht (fun _ => .inr rfl) (by simp)
  | released hp => exact h.release ht

theorem subscribe (h : s.Coherent) (hk : k.codec.RefusesZero) (id : SessionId)
    (r : SubscriptionRequest) : (k.subscription id r s).2.Coherent := by
  rcases subscription_cases k id r s with he | ⟨trigger, subscriptions, ht, ha, hadd, he⟩
  · rw [he]
    exact h
  · obtain ⟨hf, rfl⟩ := Subscriptions.add_eq_ok_iff.1 hadd
    rw [he]
    refine h.enrol ha (fun h0 => hk _ _ ht ?_) hf
    rw [← UInt32.toNat_inj, h0]
    rfl

theorem delete (h : s.Coherent) (r : SubscriptionDeleteRequest) :
    (Service.delete r s).2.Coherent := by
  rcases delete_cases r s with ⟨-, he⟩ | ⟨e, hg, he⟩
  · rw [he]
    exact h
  · obtain ⟨-, u, -, hi, -, -⟩ := h.driven _ _ hg
    rw [he, hi]
    exact h.withdraw hg hi

theorem move (h : s.Coherent) (hm : Move s s') : s'.Coherent := by
  cases hm with
  | task k ht hs => exact h.taskStep ht (taskStep_of_step? hs)
  | cut ht hs =>
      obtain ⟨-, rfl⟩ := cut?_eq_some_iff.1 hs
      exact h.setPhase ht (fun _ => .inl rfl) (by simp)
  | subscribe k hk id r => exact h.subscribe hk id r
  | delete r => exact h.delete r
  | connect l => exact h.links (sendDelay_connect s l)
  | link id hf => exact h.modifyLink id hf
  | populate p => exact h.populate p
  | pass hn => exact h.pass hn

theorem leads (h : s.Coherent) (hl : Leads s s') : s'.Coherent := by
  induction hl with
  | refl => exact h
  | tail _ hm ih => exact ih.move hm

end Coherent

end E2Node.Kpm.Reporting
