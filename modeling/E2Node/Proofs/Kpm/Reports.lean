import E2Node.Proofs.Kpm.Admission
import E2Node.Proofs.Kpm.Sequence

namespace E2Node.Kpm

def Enrolment.Final (a : Enrolment) : Event → Prop
  | .deleted key => key = a.key
  | .closed session => session = a.session
  | .handed x => x.ticker = a.ticker ∧ x.refused = true
  | .broke i => i = a.ticker

structure InOrder (k : Service) (a : Enrolment) (es : List Event) : Prop where
  numbered : ∃ header, ∀ n x, (handovers a.ticker es)[n]? = some x → Reported k a header (n + 1) x
  last : es.Pairwise fun e f => a.Final e → f.handover? a.ticker = none

namespace Reporting

variable {k : Service} {s s' : Reporting} {t : ReportTask} {a : Enrolment} {es es' : List Event}

/-- The task is ending or will find, at the end of its wait, that it has to. -/
structure Silent (a : Enrolment) (s : Reporting) : Prop where
  created : a.ticker.val < s.tickers.created
  task : ∀ t ∈ s.tasks, t.ticker = a.ticker → t.session = a.session ∧
    (t.phase.Ending ∨ t.phase.Idle ∧ (a.ticker ∈ s.tickers.stopped ∨ s.Ended a.session))

namespace Silent

theorem keep (h : Silent a s) (hc : s.tickers.created ≤ s'.tickers.created)
    (ht : ∀ t ∈ s'.tasks, t.ticker = a.ticker → t ∈ s.tasks)
    (hs : s.tickers.stopped ⊆ s'.tickers.stopped) (he : s.Ended a.session → s'.Ended a.session) :
    Silent a s' where
  created := Nat.lt_of_lt_of_le h.created hc
  task t hm hi := by
    obtain ⟨hse, hp⟩ := h.task t (ht t hm hi) hi
    exact ⟨hse, hp.imp_right fun hp => ⟨hp.1, hp.2.imp (@hs _) he⟩⟩

theorem setPhase (h : Silent a s) {p : Phase}
    (hp : p.Ending ∨ p.Idle ∧ (a.ticker ∈ s.tickers.stopped ∨ s.Ended a.session)) :
    Silent a (s.setPhase a.ticker p) where
  created := h.created
  task x hx hi := by
    rcases mem_setPhase.1 hx with ⟨-, hne⟩ | ⟨y, hy, hi, rfl⟩
    · exact absurd hi hne
    · exact ⟨(h.task y hy hi).1, hp⟩

theorem endTask (hc : a.ticker.val < s.tickers.created) : Silent a (s.endTask a.ticker) where
  created := hc
  task _ hx hi := absurd hi (mem_endTask.1 hx).2

theorem own (h : Silent a s) (ht : t ∈ s.tasks) (hi : t.ticker = a.ticker)
    (hs : TaskStep k s t s') : s.handed t = [] ∧ Silent a s' := by
  obtain ⟨hse, hp⟩ := h.task t ht hi
  have never {p : Phase} {P : Prop} (he : t.phase = p) (hn : ¬ (p.Ending ∨ p.Idle)) : P := by
    rw [he] at hp
    exact absurd (hp.imp_right And.left) hn
  have waits {p : Phase} (he : t.phase = p) (hn : ¬ p.Ending) :
      a.ticker ∈ s.tickers.stopped ∨ s.Ended a.session := by
    rw [he] at hp
    exact (hp.resolve_left hn).2
  cases hs with
  | refused hp | aborted hp | began hp | gone hp | unbuilt hp | built hp | unsent hp | sent hp =>
      exact never hp (by simp [Phase.Ending, Phase.Idle])
  | stopped hp =>
      rw [handed, hp, hi]
      exact ⟨rfl, endTask h.created⟩
  | lost hp | broke hp =>
      rw [handed, hp, hi]
      exact ⟨rfl, h.setPhase (.inl (.inl rfl))⟩
  | ticked hp hns hc =>
      rcases waits hp (by simp [Phase.Ending]) with hm | he
      · rw [hi, Tickers.isStopped, decide_eq_false_iff_not] at hns
        exact absurd hm hns
      · rw [hse, he.isClosed] at hc
        cases hc
  | @arrived r i done hp =>
      have hw := waits hp (by simp [Phase.Ending])
      have he : s.Ended a.session →
          (s.modifyLink t.session fun l => l.record s.now i).Ended a.session :=
        fun he => he.modifyLink t.session fun _ hc => hc
      have hm : Silent a (s.modifyLink t.session fun l => l.record s.now i) :=
        h.keep (Nat.le_refl _) (fun _ hx _ => hx) (List.Subset.refl _) he
      rw [handed, hp, hi]
      exact ⟨rfl, hm.setPhase (.inr ⟨trivial, hw.imp_right he⟩)⟩
  | silenced hp =>
      have hm : Silent a { s with tickers := s.tickers.stop t.ticker } :=
        h.keep (Nat.le_refl _) (fun _ hx _ => hx) (List.subset_cons_self _ _) fun he => he
      rw [handed, hp, hi] at *
      exact ⟨rfl, hm.setPhase (.inl (.inr rfl))⟩
  | released hp =>
      rw [handed, hp, hi]
      exact ⟨rfl, endTask (s := { s with subscriptions := _ }) h.created⟩

theorem other (h : Silent a s) (hi : t.ticker ≠ a.ticker) (hs : TaskStep k s t s') :
    Silent a s' :=
  h.keep (Nat.le_of_eq hs.created_eq.symm) (fun _ hx he => hs.mem_of_ne hx fun hxt => hi (hxt ▸ he))
    (fun _ => hs.stopped_mono) hs.ended

theorem happens (h : Silent a s) (hh : Happens k s es s') :
    handovers a.ticker es = [] ∧ Silent a s' := by
  have same {x : ReportTask} (hx : x ∈ s.tasks) (_ : x.ticker = a.ticker) : x ∈ s.tasks := hx
  cases hh with
  | @task t s' ht hs =>
      have hstep := taskStep_of_step? hs
      by_cases hi : t.ticker = a.ticker
      · obtain ⟨hn, hs'⟩ := h.own ht hi hstep
        rw [hn]
        exact ⟨rfl, hs'⟩
      · exact ⟨handovers_handed_of_ne s hi, h.other hi hstep⟩
  | @breaks t s' ht hs =>
      have hstep := taskStep_of_cut? k hs
      by_cases hi : t.ticker = a.ticker
      · exact ⟨rfl, (h.own ht hi hstep).2⟩
      · exact ⟨rfl, h.other hi hstep⟩
  | pass => exact ⟨rfl, h.keep (Nat.le_refl _) (fun _ hx _ => hx) (List.Subset.refl _) fun he => he⟩
  | waver id =>
      exact ⟨rfl, h.keep (Nat.le_refl _) (fun _ hx _ => hx) (List.Subset.refl _) fun he =>
        he.modifyLink id fun _ hc => hc⟩
  | subscribe hs id r =>
      refine ⟨rfl, h.keep (subscription_created_le k id r s) ?_ ?_ ?_⟩
      · exact fun x hx hi => mem_of_mem_subscription hx (hi ▸ h.created)
      · rw [subscription_stopped]
        exact List.Subset.refl _
      · exact fun he => he.of_links (subscription_links k id r s)
  | delete hs r =>
      refine ⟨rfl, h.keep (Nat.le_of_eq (delete_created r s).symm) ?_ ?_ ?_⟩
      · exact fun x hx _ => delete_tasks r s ▸ hx
      · exact fun i hi => (mem_delete_stopped r s i).2 (.inl hi)
      · exact fun he => he.of_links (delete_links r s)
  | connect hs l =>
      exact ⟨rfl, h.keep (Nat.le_refl _) (fun _ hx _ => hx) (List.Subset.refl _) fun he =>
        he.connect l⟩
  | close hs hl =>
      exact ⟨rfl, h.keep (Nat.le_refl _) (fun _ hx _ => hx) (List.Subset.refl _) fun he =>
        he.modifyLink _ fun _ _ => rfl⟩
  | populate =>
      exact ⟨rfl, h.keep (Nat.le_refl _) (fun _ hx _ => hx) (List.Subset.refl _) fun he => he⟩

end Silent

theorem Following.fail {header : List UInt8} {n : Nat} (h : Following k a header n s) :
    Silent a (s.setPhase a.ticker .failing) where
  created := h.created
  task x hx hi := by
    rcases mem_setPhase.1 hx with ⟨-, hne⟩ | ⟨y, hy, -, rfl⟩
    · exact absurd hi hne
    · exact ⟨(h.task y hy hi).1.session, .inl (.inl rfl)⟩

theorem Following.silent {header : List UInt8} {n : Nat} (h : Following k a header n s)
    (hh : Happens k s es s') (he : ∃ e ∈ es, a.Final e) : Silent a s' := by
  obtain ⟨e, he, hf⟩ := he
  cases hh with
  | @task t s' ht hs =>
      by_cases hp : ∃ r i, t.phase = .sending r i
      · obtain ⟨r, i, hp⟩ := hp
        rw [handed_of_sending s hp, List.mem_singleton] at he
        subst he
        obtain ⟨hi, hr⟩ : t.ticker = a.ticker ∧ (s.refusal? t.session).isSome = true := hf
        simp only [step?, hp, hr, if_true, Option.some.injEq] at hs
        subst hs
        exact hi ▸ h.fail
      · rw [handed_of_ne_sending s fun r i hs => hp ⟨r, i, hs⟩] at he
        cases he
  | breaks ht hs =>
      obtain rfl := List.mem_singleton.1 he
      obtain ⟨-, rfl⟩ := cut?_eq_some_iff.1 hs
      have hi : _ = a.ticker := hf
      exact hi ▸ h.fail
  | delete hs r =>
      obtain rfl := List.mem_singleton.1 he
      refine ⟨by rw [delete_created]; exact h.created, fun x hx hi => ?_⟩
      rw [delete_tasks] at hx
      refine ⟨(h.task x hx hi).1.session, .inr ⟨hs.idle hx, .inl ?_⟩⟩
      rw [mem_delete_stopped, show SubscriptionKey.of r.request r.function = a.key from hf]
      exact (h.stored x hx hi).symm
  | @close hs id l hl =>
      obtain rfl := List.mem_singleton.1 he
      refine ⟨h.created, fun x hx hi => ⟨(h.task x hx hi).1.session, .inr ⟨hs.idle hx, .inr ?_⟩⟩⟩
      rw [← show id = a.session from hf]
      exact ended_close hl
  | pass | waver | subscribe | connect | populate => cases he

theorem Happens.pairwise {R : Event → Event → Prop} (hh : Happens k s es s') : es.Pairwise R := by
  cases hh with
  | task =>
      rw [handed]
      split
      · exact List.pairwise_singleton _ _
      · exact .nil
  | breaks | delete | close => exact List.pairwise_singleton _ _
  | pass | waver | subscribe | connect | populate => exact .nil

structure Account (k : Service) (a : Enrolment) (es : List Event) (s : Reporting) : Prop where
  followed : Followed k a (handovers a.ticker es) s
  last : es.Pairwise fun e f => a.Final e → f.handover? a.ticker = none
  silent : ∀ e ∈ es, a.Final e → Silent a s

theorem Account.happens (h : Account k a es s) (hh : Happens k s es' s') :
    Account k a (es ++ es') s' where
  followed := by
    rw [handovers_append]
    exact h.followed.happens hh
  last := by
    refine List.pairwise_append.2 ⟨h.last, hh.pairwise, fun e he f hf hfin => ?_⟩
    obtain ⟨hn, -⟩ := (h.silent e he hfin).happens hh
    exact List.filterMap_eq_nil_iff.1 hn f hf
  silent e he hfin := by
    rcases List.mem_append.1 he with he | he
    · exact ((h.silent e he hfin).happens hh).2
    · obtain ⟨header, -, hf⟩ := h.followed
      exact hf.silent hh ⟨e, he, hfin⟩

theorem Account.course {s₀ : Reporting} (h : Account k a [] s₀) (hc : Course k s₀ es s) :
    Account k a es s := by
  induction hc with
  | refl => exact h
  | tail _ hh ih => exact ih.happens hh

theorem Account.inOrder (h : Account k a es s) : InOrder k a es := by
  obtain ⟨header, hx, -⟩ := h.followed
  exact ⟨⟨header, hx⟩, h.last⟩

theorem Numbered.account {s₀ s₁ : Reporting} {session : SessionId} {r : SubscriptionRequest}
    {answer : SubscriptionResponse} (hn : s₀.Numbered)
    (ha : k.subscription session r s₀ = (.ok (.success answer), s₁)) :
    ∃ t action, k.codec.readTrigger r.eventTrigger = .ok t ∧
      answer.admitted = reportIds r.actions ∧ (reportIds r.actions).head? = some action ∧
      Account k ⟨r.request, r.function, session, t.periodMillis.toNat, s₀.tickers.next, action,
        s₀.now⟩ [] s₁ := by
  have ho : Decision k session r s₀ (.ok (.success answer), s₁) := by
    obtain ⟨o, ho⟩ := exists_decision k session r s₀
    rwa [← ha, ho.eq]
  cases ho with
  | @admitted t hw hne ht hk =>
      refine ⟨t, _, ht, rfl, List.head?_eq_some_head hne, ?_, .nil, nofun⟩
      refine ⟨[], nofun, Nat.lt_succ_self _, Nat.le_refl _, fun key e he hi => ?_, ?_, ?_⟩
      · rw [Table.get?_insert] at he
        split at he
        · cases he
          exact List.head?_eq_some_head hne
        · exact absurd (hn.entries key e _ he hi) (Nat.lt_irrefl _)
      · intro x hx hi
        exact .inl (Subscriptions.owns_iff.2 ⟨_, by rw [Table.get?_insert]; exact if_pos rfl, rfl⟩)
      · intro x hx hi
        rcases List.mem_append.1 hx with hx | hx
        · have hlt := hn.tasks x hx
          rw [hi] at hlt
          exact absurd hlt (Nat.lt_irrefl _)
        · rw [List.mem_singleton.1 hx]
          exact ⟨⟨rfl, rfl, rfl⟩, rfl⟩

/-- Whatever follows its admission, a subscription's reports are in order, and its task has a ticker
under which nothing was reported before. -/
theorem reports_in_order {p : Population} {epoch : Int} {es₀ : List Event} {s₀ s₁ : Reporting}
    {session : SessionId} {r : SubscriptionRequest} {answer : SubscriptionResponse}
    (h₀ : Course k (start p epoch) es₀ s₀)
    (ha : k.subscription session r s₀ = (.ok (.success answer), s₁)) (h : Course k s₁ es s) :
    handovers s₀.tickers.next es₀ = [] ∧ ∃ t action,
      k.codec.readTrigger r.eventTrigger = .ok t ∧ answer.admitted = reportIds r.actions ∧
      (reportIds r.actions).head? = some action ∧
      InOrder k ⟨r.request, r.function, session, t.periodMillis.toNat, s₀.tickers.next, action,
        s₀.now⟩ es ∧
      (∃ fs, Course k s₁ (es ++ fs) (s.settle k)) ∧
      ∀ millis, ∃ fs, Course k s₁ (es ++ fs) (s.advance k millis) := by
  have hn := (Numbered.start p epoch).course h₀
  obtain ⟨t, action, ht, hadm, hact, hacc⟩ := hn.account ha
  obtain ⟨fs, hf⟩ := settle_course k s
  refine ⟨h₀.handovers_eq_nil (Numbered.start p epoch) (Nat.le_refl _), t, action, ht, hadm, hact,
    (hacc.course h).inOrder, ⟨fs, h.trans hf⟩, fun millis => ?_⟩
  obtain ⟨fs, hf⟩ := advance_course k s millis
  exact ⟨fs, h.trans hf⟩

theorem readmitted_in_order :
    let k : Service := ⟨⟨⟨1⟩, ⟨⟨1, 3, 8⟩, ⟨4, 2, 6⟩, 3⟩⟩, .standard, []⟩
    let r : SubscriptionRequest := ⟨⟨1, 2⟩, functionId, [100, 0, 0, 0],
      [⟨⟨3⟩, .insert, none⟩, ⟨⟨5⟩, .report, none⟩, ⟨⟨4⟩, .report, none⟩]⟩
    let x₁ := record k 10
      (k.subscription ⟨0⟩ r { start .empty 0 with links := [.fresh false 0] }).2
    let x₂ := record k 10 (x₁.2.atTime 100)
    let s₀ := (Service.delete ⟨r.request, r.function⟩ x₂.2).2
    let es₀ := x₁.1 ++ x₂.1 ++ [.deleted (.of r.request r.function)]
    let o := k.subscription ⟨0⟩ r s₀
    let y₁ := record k 10 o.2
    let y₂ := record k 10 (y₁.2.atTime 250)
    let slow (l : Link) : Link := { l with failing := false, sendDelay := 50 }
    let y₃ := record k 10 ((y₂.2.modifyLink ⟨0⟩ slow).atTime 350)
    let y₄ := record k 10 ((y₃.2.setPhase ⟨1⟩ .failing).atTime 700)
    let es := y₁.1 ++ y₂.1 ++ y₃.1 ++ [.broke ⟨1⟩] ++ y₄.1
    (handovers ⟨0⟩ es₀).map (fun x => (x.time, x.indication.sequenceNumber)) = [(100, some 1)] ∧
      (handovers ⟨1⟩ es).map (fun x => (x.time, x.indication.sequenceNumber)) =
        [(250, some 1), (350, some 2)] ∧ handovers ⟨1⟩ es₀ = [] ∧
      InOrder k ⟨r.request, r.function, ⟨0⟩, 100, ⟨1⟩, ⟨5⟩, 100⟩ es := by
  intro k r x₁ x₂ s₀ es₀ o y₁ y₂ slow y₃ y₄ es
  have hx₁ : Course k (start .empty 0) x₁.1 x₁.2 :=
    .trans (.quietly (.quietly .refl (.connect (by decide) (.fresh false 0)))
      (.subscribe (by decide) ⟨0⟩ r)) (record_course k 10 _)
  have hx₂ : Course k (start .empty 0) (x₁.1 ++ x₂.1) x₂.2 :=
    (hx₁.quietly (.pass (by decide))).trans (record_course k 10 _)
  have hd : x₂.2.Settled k := by decide
  have h₀ : Course k (start .empty 0) es₀ s₀ := hx₂.tail (.delete hd ⟨r.request, r.function⟩)
  have ha : o = (.ok (.success
      ⟨r.request, r.function, [⟨5⟩, ⟨4⟩], [(⟨3⟩, .request .actionNotSupported)]⟩), o.2) :=
    Prod.ext (by decide) rfl
  have hy₁ : Course k o.2 y₁.1 y₁.2 := record_course k 10 _
  have hy₂ : Course k o.2 (y₁.1 ++ y₂.1) y₂.2 :=
    (hy₁.quietly (.pass (by decide))).trans (record_course k 10 _)
  have hy₃ : Course k o.2 (y₁.1 ++ y₂.1 ++ y₃.1) y₃.2 :=
    ((hy₂.quietly (.waver ⟨0⟩ false 50)).quietly (.pass (by decide))).trans (record_course k 10 _)
  obtain ⟨t, ht, hi, hcut⟩ : ∃ t ∈ y₃.2.tasks, t.ticker = ⟨1⟩ ∧ (y₃.2.cut? t).isSome = true := by
    decide
  obtain ⟨s', hs'⟩ := Option.isSome_iff_exists.1 hcut
  have hbreak : Happens k y₃.2 [.broke ⟨1⟩] (y₃.2.setPhase ⟨1⟩ .failing) := by
    rw [← hi, ← (cut?_eq_some_iff.1 hs').2]
    exact .breaks ht hs'
  have h : Course k o.2 es y₄.2 :=
    ((hy₃.tail hbreak).quietly (.pass (by decide))).trans (record_course k 10 _)
  obtain ⟨hn, t, action, ht, -, hact, hin, -⟩ := reports_in_order h₀ ha h
  have ht' : k.codec.readTrigger r.eventTrigger = .ok ⟨100⟩ := rfl
  cases ht'.symm.trans ht
  cases hact
  have hi : s₀.tickers.next = ⟨1⟩ := by decide
  have hnow : s₀.now = 100 := by decide
  rw [hi] at hn
  rw [hi, hnow] at hin
  exact ⟨by decide, by decide, hn, hin⟩

end Reporting

end E2Node.Kpm
