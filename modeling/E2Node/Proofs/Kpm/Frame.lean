import E2Node.Proofs.Kpm.Course
import E2Node.Proofs.Kpm.Ending

namespace E2Node.Kpm.Reporting

variable {k : Service} {s s' : Reporting} {t x : ReportTask} {i : TickerId} {es : List Event}

theorem TaskStep.created_eq (h : TaskStep k s t s') : s'.tickers.created = s.tickers.created := by
  cases h <;> rfl

theorem TaskStep.population_eq (h : TaskStep k s t s') : s'.population = s.population := by
  cases h <;> rfl

theorem TaskStep.stopped_mono (h : TaskStep k s t s') (hi : i ∈ s.tickers.stopped) :
    i ∈ s'.tickers.stopped := by
  cases h with
  | silenced => exact List.mem_cons_of_mem _ hi
  | _ => exact hi

theorem TaskStep.stopped_of_ne (h : TaskStep k s t s') (hne : i ≠ t.ticker)
    (hi : i ∈ s'.tickers.stopped) : i ∈ s.tickers.stopped := by
  cases h with
  | silenced => exact (List.mem_cons.1 hi).resolve_left hne
  | _ => exact hi

theorem TaskStep.get?_of_some (h : TaskStep k s t s') {key : SubscriptionKey} {e : Subscription}
    (he : s'.subscriptions.entries.get? key = some e) :
    s.subscriptions.entries.get? key = some e := by
  cases h with
  | released =>
      rw [endTask_subscriptions, Subscriptions.get?_release] at he
      split at he
      · cases he
      · exact he
  | _ => exact he

theorem TaskStep.owns_of_ne (h : TaskStep k s t s') {key : SubscriptionKey} (hne : i ≠ t.ticker) :
    s'.subscriptions.owns key i = s.subscriptions.owns key i := by
  cases h with
  | released => rw [endTask_subscriptions, Subscriptions.owns_release_of_ne hne]
  | _ => rfl

theorem TaskStep.origin (h : TaskStep k s t s') (hx : x ∈ s'.tasks) :
    ∃ y ∈ s.tasks, x = { y with phase := x.phase } ∧ (x.ticker ≠ t.ticker → x = y) := by
  have set {u : Reporting} {p : Phase} (hu : u.tasks = s.tasks)
      (hx : x ∈ (u.setPhase t.ticker p).tasks) :
      ∃ y ∈ s.tasks, x = { y with phase := x.phase } ∧ (x.ticker ≠ t.ticker → x = y) := by
    rcases mem_setPhase.1 hx with ⟨hx, -⟩ | ⟨y, hy, hi, rfl⟩
    · exact ⟨x, hu ▸ hx, rfl, fun _ => rfl⟩
    · exact ⟨y, hu ▸ hy, rfl, fun hne => absurd hi hne⟩
  have remove {u : Reporting} (hu : u.tasks = s.tasks) (hx : x ∈ (u.endTask t.ticker).tasks) :
      ∃ y ∈ s.tasks, x = { y with phase := x.phase } ∧ (x.ticker ≠ t.ticker → x = y) :=
    ⟨x, hu ▸ (mem_endTask.1 hx).1, rfl, fun _ => rfl⟩
  cases h with
  | refused | began | lost | ticked | unbuilt | built | unsent | sent | broke => exact set rfl hx
  | arrived => exact set (u := s.modifyLink t.session _) rfl hx
  | silenced => exact set (u := { s with tickers := s.tickers.stop t.ticker }) rfl hx
  | aborted | stopped | gone => exact remove rfl hx
  | released =>
      exact remove (u := { s with subscriptions := s.subscriptions.release t.key t.ticker }) rfl hx

theorem TaskStep.mem_of_ne (h : TaskStep k s t s') (hx : x ∈ s'.tasks) (hne : x.ticker ≠ t.ticker) :
    x ∈ s.tasks := by
  obtain ⟨y, hy, -, he⟩ := h.origin hx
  rw [he hne]
  exact hy

def Ended (s : Reporting) (id : SessionId) : Prop := ∃ l, s.link? id = some l ∧ l.closed = true

theorem Ended.isClosed {id : SessionId} (h : s.Ended id) : s.isClosed id = true := by
  obtain ⟨l, hl, hc⟩ := h
  rw [Reporting.isClosed, hl]
  exact hc

theorem Ended.modifyLink {id : SessionId} (h : s.Ended id) (id' : SessionId) {f : Link → Link}
    (hf : ∀ l, l.closed = true → (f l).closed = true) : (s.modifyLink id' f).Ended id := by
  obtain ⟨l, hl, hc⟩ := h
  refine ⟨_, by rw [link?_modifyLink, hl]; rfl, ?_⟩
  split
  · exact hf l hc
  · exact hc

theorem ended_close {id : SessionId} {l : Link} (hl : s.link? id = some l) :
    (s.modifyLink id Link.close).Ended id := by
  refine ⟨l.close, ?_, rfl⟩
  rw [link?_modifyLink, hl, Option.map_some, if_pos rfl]

theorem Ended.of_links {id : SessionId} (h : s.Ended id) (hl : s'.links = s.links) :
    s'.Ended id := by
  obtain ⟨l, he, hc⟩ := h
  exact ⟨l, by rwa [link?, hl], hc⟩

theorem Ended.connect {id : SessionId} (h : s.Ended id) (l : Link) :
    Ended { s with links := s.links ++ [l] } id := by
  obtain ⟨l', he, hc⟩ := h
  refine ⟨l', ?_, hc⟩
  rw [link?, List.getElem?_append_left (List.getElem?_eq_some_iff.1 he).1]
  exact he

theorem TaskStep.ended {id : SessionId} (h : TaskStep k s t s') (he : s.Ended id) : s'.Ended id := by
  cases h with
  | arrived => exact he.modifyLink t.session fun _ hc => hc
  | _ => exact he

section Subscribe

variable (k : Service) (id : SessionId) (r : SubscriptionRequest) (s : Reporting)

theorem subscription_created_le : s.tickers.created ≤ (k.subscription id r s).2.tickers.created := by
  rcases subscription_cases k id r s with he | ⟨_, _, _, _, _, he⟩
  · rw [he]
  · rw [he]
    exact Nat.le_succ _

theorem subscription_stopped : (k.subscription id r s).2.tickers.stopped = s.tickers.stopped := by
  rcases subscription_cases k id r s with he | ⟨_, _, _, _, _, he⟩
  · rw [he]
  · rw [he]
    rfl

theorem mem_of_mem_subscription {k : Service} {id : SessionId} {r : SubscriptionRequest}
    {s : Reporting} {x : ReportTask} (hx : x ∈ (k.subscription id r s).2.tasks)
    (hi : x.ticker.val < s.tickers.created) : x ∈ s.tasks := by
  rcases subscription_cases k id r s with he | ⟨_, _, _, _, _, he⟩
  · rwa [he] at hx
  · rw [he] at hx
    rcases List.mem_append.1 hx with hx | hx
    · exact hx
    · rw [List.mem_singleton.1 hx] at hi
      exact absurd hi (Nat.lt_irrefl _)

end Subscribe

section Delete

variable (r : SubscriptionDeleteRequest) (s : Reporting)

theorem delete_tasks : (Service.delete r s).2.tasks = s.tasks := by
  rcases delete_cases r s with ⟨-, he⟩ | ⟨e, -, he⟩ <;> rw [he]

theorem delete_now : (Service.delete r s).2.now = s.now := by
  rcases delete_cases r s with ⟨-, he⟩ | ⟨e, -, he⟩ <;> rw [he]

theorem delete_created : (Service.delete r s).2.tickers.created = s.tickers.created := by
  rcases delete_cases r s with ⟨-, he⟩ | ⟨e, -, he⟩
  · rw [he]
  · rw [he]
    cases e.ticker <;> rfl

theorem delete_get? (key : SubscriptionKey) :
    (Service.delete r s).2.subscriptions.entries.get? key =
      if key = .of r.request r.function then none else s.subscriptions.entries.get? key := by
  rcases delete_cases r s with ⟨hn, he⟩ | ⟨e, -, he⟩
  · rw [he]
    split
    · rwa [‹key = _›]
    · rfl
  · rw [he, Table.get?_erase]

theorem mem_delete_stopped (i : TickerId) : i ∈ (Service.delete r s).2.tickers.stopped ↔
    i ∈ s.tickers.stopped ∨ s.subscriptions.owns (.of r.request r.function) i = true := by
  rw [Subscriptions.owns_iff]
  rcases delete_cases r s with ⟨hn, he⟩ | ⟨e, hg, he⟩
  · simp [he, hn]
  · rw [he]
    cases hi : e.ticker with
    | none => simp [hg, hi]
    | some j => simp [Tickers.stop, hg, hi, or_comm, eq_comm]

end Delete

structure Numbered (s : Reporting) : Prop where
  tasks : ∀ t ∈ s.tasks, t.ticker.val < s.tickers.created
  stopped : ∀ i ∈ s.tickers.stopped, i.val < s.tickers.created
  entries : ∀ key e i, s.subscriptions.entries.get? key = some e → e.ticker = some i →
    i.val < s.tickers.created

namespace Numbered

theorem start (p : Population) (epoch : Int) : (Reporting.start p epoch).Numbered where
  tasks _ h := nomatch h
  stopped _ h := nomatch h
  entries _ _ _ h := nomatch h

theorem taskStep (h : s.Numbered) (ht : t ∈ s.tasks) (hs : TaskStep k s t s') : s'.Numbered where
  tasks x hx := by
    obtain ⟨y, hy, he, -⟩ := hs.origin hx
    rw [hs.created_eq, he]
    exact h.tasks y hy
  stopped i hi := by
    rw [hs.created_eq]
    by_cases hne : i = t.ticker
    · rw [hne]
      exact h.tasks t ht
    · exact h.stopped i (hs.stopped_of_ne hne hi)
  entries key e i he hi := by
    rw [hs.created_eq]
    exact h.entries key e i (hs.get?_of_some he) hi

theorem subscribe (h : s.Numbered) (id : SessionId) (r : SubscriptionRequest) :
    (k.subscription id r s).2.Numbered := by
  rcases subscription_cases k id r s with he | ⟨trigger, subscriptions, -, -, hadd, he⟩
  · rwa [he]
  · obtain ⟨-, rfl⟩ := Subscriptions.add_eq_ok_iff.1 hadd
    rw [he]
    refine ⟨fun x hx => ?_, fun i hi => Nat.lt_succ_of_lt (h.stopped i hi), fun key e i he hi => ?_⟩
    · rcases List.mem_append.1 hx with hx | hx
      · exact Nat.lt_succ_of_lt (h.tasks x hx)
      · rw [List.mem_singleton.1 hx]
        exact Nat.lt_succ_self _
    · rw [Table.get?_insert] at he
      split at he
      · cases he
        cases hi
        exact Nat.lt_succ_self _
      · exact Nat.lt_succ_of_lt (h.entries key e i he hi)

theorem delete (h : s.Numbered) (r : SubscriptionDeleteRequest) :
    (Service.delete r s).2.Numbered where
  tasks x hx := by
    rw [delete_tasks] at hx
    rw [delete_created]
    exact h.tasks x hx
  stopped i hi := by
    rw [delete_created]
    rcases (mem_delete_stopped r s i).1 hi with hi | ho
    · exact h.stopped i hi
    · obtain ⟨e, he, hi⟩ := Subscriptions.owns_iff.1 ho
      exact h.entries _ e i he hi
  entries key e i he hi := by
    rw [delete_get?] at he
    rw [delete_created]
    split at he
    · cases he
    · exact h.entries key e i he hi

theorem happens (h : s.Numbered) (hh : Happens k s es s') : s'.Numbered := by
  cases hh with
  | task ht hs => exact h.taskStep ht (taskStep_of_step? hs)
  | breaks ht hs => exact h.taskStep ht (taskStep_of_cut? k hs)
  | subscribe hs id r => exact h.subscribe id r
  | delete hs r => exact h.delete r
  | pass | waver | connect | close | populate => exact ⟨h.tasks, h.stopped, h.entries⟩

theorem course (h : s.Numbered) (hc : Course k s es s') : s'.Numbered := by
  induction hc with
  | refl => exact h
  | tail _ hh ih => exact ih.happens hh

end Numbered

theorem Happens.created_le (hh : Happens k s es s') : s.tickers.created ≤ s'.tickers.created := by
  cases hh with
  | task ht hs => rw [(taskStep_of_step? hs).created_eq]
  | breaks ht hs => rw [(taskStep_of_cut? k hs).created_eq]
  | subscribe hs id r => exact subscription_created_le k id r s
  | delete hs r => rw [delete_created]
  | pass | waver | connect | close | populate => exact Nat.le_refl _

theorem handovers_handed_of_ne (s : Reporting) (hne : t.ticker ≠ i) :
    handovers i (s.handed t) = [] := by
  rw [handed]
  cases t.phase <;> simp [handovers, Event.handover?, hne]

theorem handed_of_sending (s : Reporting) {r : Rhythm} {x : Indication}
    (hp : t.phase = .sending r x) : s.handed t =
      [.handed ⟨t.ticker, t.session, x, s.now, s.population.size,
        (s.refusal? t.session).isSome⟩] := by
  rw [handed, hp]

theorem handed_of_ne_sending (s : Reporting) (hp : ∀ r x, t.phase ≠ .sending r x) :
    s.handed t = [] := by
  rw [handed]
  split
  · exact absurd ‹_› (hp _ _)
  · rfl

theorem Happens.handovers_eq_nil (hn : s.Numbered) (hh : Happens k s es s')
    (hi : s.tickers.created ≤ i.val) : handovers i es = [] := by
  cases hh with
  | task ht hs =>
      refine handovers_handed_of_ne s fun he => ?_
      have := hn.tasks _ ht
      rw [he] at this
      omega
  | _ => rfl

theorem Course.handovers_eq_nil (hn : s.Numbered) (hc : Course k s es s')
    (hi : s'.tickers.created ≤ i.val) : handovers i es = [] := by
  induction hc with
  | refl => rfl
  | tail hc hh ih =>
      have hle := Nat.le_trans hh.created_le hi
      rw [handovers_append, ih hle, hh.handovers_eq_nil (hn.course hc) hle, List.append_nil]

end E2Node.Kpm.Reporting
