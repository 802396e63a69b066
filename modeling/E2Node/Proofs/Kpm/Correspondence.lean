import E2Node.Proofs.Kpm.Settling
import Mathlib.Data.List.Nodup

namespace E2Node.Kpm.Reporting

variable {k : Service} {s s' : Reporting} {t : ReportTask}

structure Matched (s : Reporting) : Prop where
  driven : ∀ key e, s.subscriptions.entries.get? key = some e → ∃ t,
    e.ticker = some t.ticker ∧ s.tickers.isStopped t.ticker = false ∧
      (s.tasks.filter fun u => u.ticker = t.ticker) = [t] ∧ t.key = key ∧
      t.session = e.session ∧ s.isClosed e.session = false
  stored : ∀ t ∈ s.tasks, ∃ e, s.subscriptions.entries.get? t.key = some e ∧
    e.ticker = some t.ticker ∧ e.session = t.session
  single : (s.tasks.map ReportTask.key).Nodup

theorem Coherent.filter_ticker (h : s.Coherent) (ht : t ∈ s.tasks) :
    (s.tasks.filter fun u => u.ticker = t.ticker) = [t] := by
  have hn : s.tasks.Nodup := h.distinct.of_map
  have hc : ∀ u ∈ s.tasks, decide (u.ticker = t.ticker) = (u == t) := by
    intro u hu
    rw [Bool.eq_iff_iff, decide_eq_true_iff, beq_iff_eq]
    exact ⟨h.eq_of_ticker hu ht, congrArg _⟩
  rw [List.filter_congr hc, List.filter_beq, List.count_eq_one_of_mem hn ht, List.replicate_one]

theorem Coherent.stored_entry (h : s.Coherent) (ht : t ∈ s.tasks)
    (hs : t.ticker ∉ s.tickers.stopped) : ∃ e, s.subscriptions.entries.get? t.key = some e ∧
      e.ticker = some t.ticker ∧ e.session = t.session := by
  obtain ⟨e, he, hi⟩ := Subscriptions.owns_iff.1 (h.stored t ht hs)
  obtain ⟨-, u, hu, hiu, -, hsu⟩ := h.driven t.key e he
  obtain rfl : t = u := h.eq_of_ticker ht hu (Option.some.inj (hi.symm.trans hiu))
  exact ⟨e, he, hi, hsu.symm⟩

theorem Coherent.running (h : s.Coherent) (hs : s.Settled k) (hd : ∀ id, s.sendDelay id = 0)
    (ht : t ∈ s.tasks) :
    s.tickers.isStopped t.ticker = false ∧ s.isClosed t.session = false := by
  rcases step?_eq_none_iff.1 (hs t ht) with ⟨r, -, hi, hc, -⟩ | ⟨r, i, done, hp, hlt⟩
  · exact ⟨hi, hc⟩
  · have hle := h.timely t ht r i done hp
    rw [hd] at hle
    omega

theorem Coherent.matched (h : s.Coherent) (hs : s.Settled k) (hd : ∀ id, s.sendDelay id = 0) :
    s.Matched := by
  have stored : ∀ t ∈ s.tasks, ∃ e, s.subscriptions.entries.get? t.key = some e ∧
      e.ticker = some t.ticker ∧ e.session = t.session := by
    intro t ht
    refine h.stored_entry ht ?_
    simpa [Tickers.isStopped] using (h.running hs hd ht).1
  refine ⟨?_, stored, List.Nodup.map_on ?_ h.distinct.of_map⟩
  · intro key e he
    obtain ⟨-, t, ht, hi, hk, hse⟩ := h.driven key e he
    obtain ⟨hn, hc⟩ := h.running hs hd ht
    exact ⟨t, hi, hn, h.filter_ticker ht, hk, hse, hse ▸ hc⟩
  · intro t ht u hu hk
    obtain ⟨e, he, hi, -⟩ := stored t ht
    obtain ⟨e', he', hi', -⟩ := stored u hu
    rw [← hk, he] at he'
    cases he'
    exact h.eq_of_ticker ht hu (Option.some.inj (hi.symm.trans hi'))

/-- Every settled state is matched, and every state settles. -/
theorem settled_matched {p : Population} {epoch : Int} (h : Leads (start p epoch) s)
    (hd : ∀ id, s.sendDelay id = 0) : (∀ k, s.Settled k → s.Matched) ∧
      ∀ k, Leads s (s.settle k) ∧ (s.settle k).Settled k ∧ (s.settle k).Matched := by
  have hc := (Coherent.start p epoch).leads h
  refine ⟨fun k hs => hc.matched hs hd, fun k => ?_⟩
  have hl := settle_leads k s
  have hs := settle_settled (k := k) hc
  refine ⟨hl, hs, (hc.leads hl).matched hs fun id => ?_⟩
  rw [settle_sendDelay, hd]

/-- A key is subscribed to on one session, deleted, and subscribed to on another session before the
first task has come to a wait. -/
theorem reused_key_matched :
    let k : Service := ⟨⟨⟨1⟩, ⟨⟨1, 3, 8⟩, ⟨4, 2, 6⟩, 3⟩⟩, .standard, []⟩
    let r : SubscriptionRequest := ⟨⟨1, 2⟩, functionId, [100, 0, 0, 0], [⟨⟨1⟩, .report, none⟩]⟩
    let s₀ : Reporting := { start .empty 0 with links := [.fresh false 0, .fresh false 0] }
    let s₁ := (Service.delete ⟨⟨1, 2⟩, functionId⟩ (k.subscription ⟨0⟩ r s₀).2).2
    let s := (k.subscription ⟨1⟩ r s₁).2
    Leads (start .empty 0) s ∧ (∀ id, s.sendDelay id = 0) ∧ s.tasks.length = 2 ∧
      (s.settle k).Matched ∧ (s.settle k).tasks.map ReportTask.session = [⟨1⟩] := by
  intro k r s₀ s₁ s
  have h₀ : Leads (start .empty 0) s₀ := .tail (.single (.connect _ (.fresh false 0))) (.connect _ _)
  have h₁ : Leads (start .empty 0) s₁ :=
    (h₀.tail (.subscribe _ k ElementCodec.standard_refusesZero _ _)).tail (.delete _ _)
  have h : Leads (start .empty 0) s :=
    h₁.tail (.subscribe _ k ElementCodec.standard_refusesZero _ _)
  have hd : ∀ id, s.sendDelay id = 0 := by
    rintro ⟨_ | _ | n⟩ <;> rfl
  exact ⟨h, hd, by decide, ((settled_matched h hd).2 k).2.2, by decide⟩

end E2Node.Kpm.Reporting
