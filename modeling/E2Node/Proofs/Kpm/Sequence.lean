import E2Node.Proofs.Kpm.Frame

namespace E2Node.Kpm

def Phase.Idle : Phase → Prop
  | .waiting _ | .inFlight _ _ _ => True
  | _ => False

/-- A subscription as it was admitted. -/
structure Enrolment where
  request : RequestId
  function : RanFunctionId
  session : SessionId
  period : Nat
  ticker : TickerId
  action : ActionId
  since : Nat

namespace Enrolment

def key (a : Enrolment) : SubscriptionKey := .of a.request a.function

structure Owns (a : Enrolment) (t : ReportTask) : Prop where
  key : t.key = a.key
  session : t.session = a.session
  period : t.period = a.period

end Enrolment

/-- What is handed over as the report with a number. -/
structure Reported (k : Service) (a : Enrolment) (header : List UInt8) (n : Nat) (x : Handover) :
    Prop where
  session : x.session = a.session
  request : x.indication.request = a.request
  function : x.indication.function = a.function
  action : x.indication.action = a.action
  number : x.indication.sequenceNumber.map UInt32.toNat = some (n % 2 ^ 32)
  type : x.indication.type = .report
  header : x.indication.header = header
  message : ∃ m : Measurement, m.activeUes.toNat = min x.ues (2 ^ 32 - 1) ∧
    k.codec.measurement m = .ok x.indication.message
  callProcess : x.indication.callProcess = none
  time : a.since + n * a.period ≤ x.time

theorem toNat_measurement (ues : Nat) :
    (measurement ues).activeUes.toNat = min ues (2 ^ 32 - 1) := by
  refine UInt32.toNat_ofNat_of_lt' ?_
  rw [UInt32.size]
  omega

theorem le_nextDue {start now due period : Nat} (hn : start ≤ now) (hd : start ≤ due) :
    start + period ≤ nextDue due now period := by
  rw [nextDue]
  split <;> omega

namespace Reporting

variable {k : Service} {s s' : Reporting} {t x : ReportTask} {a : Enrolment}
  {header : List UInt8} {n : Nat} {es es' : List Event}

theorem Settled.idle (hs : s.Settled k) (ht : t ∈ s.tasks) : t.phase.Idle := by
  rcases step?_eq_none_iff.1 (hs t ht) with ⟨r, hp, -⟩ | ⟨r, i, done, hp, -⟩ <;> rw [hp] <;> trivial

theorem reportFor_eq_ok {r : Rhythm} {e : Subscription} {i : Indication}
    (h : s.reportFor k t r e = some (.ok i)) : ∃ action message,
      e.accepted.head? = some action ∧
        k.codec.measurement (measurement s.population.size) = .ok message ∧
        i = report t.key action r message := by
  rw [reportFor] at h
  split at h
  · cases h
  · rename_i action rest ha
    split at h
    · cases h
    · rename_i message hm
      rw [Option.some.injEq, Indication.checked] at h
      split at h
      · cases h
      · cases h
        exact ⟨action, message, by rw [ha]; rfl, hm, rfl⟩

structure Ticked (a : Enrolment) (header : List UInt8) (n : Nat) (s : Reporting) (r : Rhythm) :
    Prop where
  header : r.header = header
  sequence : r.sequence = UInt32.ofNat (n + 1)
  time : a.since + (n + 1) * a.period ≤ s.now
  due : a.since + (n + 2) * a.period ≤ r.due

/-- Where a task stands that has handed over `n` reports. -/
def Stands (k : Service) (a : Enrolment) (header : List UInt8) (n : Nat) (s : Reporting) :
    Phase → Prop
  | .starting => n = 0
  | .waiting r | .inFlight r _ _ =>
      r.header = header ∧ r.sequence = UInt32.ofNat n ∧ a.since + (n + 1) * a.period ≤ r.due
  | .looking r => Ticked a header n s r ∧ s.subscriptions.owns a.key a.ticker = true
  | .sending r i => Ticked a header n s r ∧ ∃ message,
      k.codec.measurement (measurement s.population.size) = .ok message ∧
        i = report a.key a.action r message
  | .failing | .releasing => True

structure Following (k : Service) (a : Enrolment) (header : List UInt8) (n : Nat) (s : Reporting) :
    Prop where
  created : a.ticker.val < s.tickers.created
  since : a.since ≤ s.now
  entry : ∀ key e, s.subscriptions.entries.get? key = some e → e.ticker = some a.ticker →
    e.accepted.head? = some a.action
  stored : ∀ t ∈ s.tasks, t.ticker = a.ticker →
    s.subscriptions.owns a.key a.ticker = true ∨ a.ticker ∈ s.tickers.stopped
  task : ∀ t ∈ s.tasks, t.ticker = a.ticker → a.Owns t ∧ Stands k a header n s t.phase

theorem Stands.mono {p : Phase} (h : Stands k a header n s p) (hn : s.now ≤ s'.now)
    (hp : s'.population = s.population)
    (ho : s.subscriptions.owns a.key a.ticker = true →
      s'.subscriptions.owns a.key a.ticker = true) : Stands k a header n s' p := by
  have ticked {r : Rhythm} (h : Ticked a header n s r) : Ticked a header n s' r :=
    ⟨h.header, h.sequence, Nat.le_trans h.time hn, h.due⟩
  cases p with
  | looking r => exact ⟨ticked h.1, ho h.2⟩
  | sending r i =>
      obtain ⟨ht, hi⟩ := h
      refine ⟨ticked ht, ?_⟩
      rwa [hp]
  | _ => exact h

theorem Stands.idle {p : Phase} (h : Stands k a header n s p) (hp : p.Idle) :
    Stands k a header n s' p := by
  cases p with
  | waiting | inFlight => exact h
  | _ => cases hp

theorem Stands.of_eq {p : Phase} (h : Stands k a header n s p) (hn : s'.now = s.now)
    (hp : s'.population = s.population) (he : s'.subscriptions = s.subscriptions) :
    Stands k a header n s' p :=
  h.mono (Nat.le_of_eq hn.symm) hp fun ho => he ▸ ho

namespace Following

theorem setPhase (h : Following k a header n s) {header' : List UInt8} {n' : Nat} {p : Phase}
    (hp : Stands k a header' n' s p) : Following k a header' n' (s.setPhase a.ticker p) where
  created := h.created
  since := h.since
  entry := h.entry
  stored x hx hi := by
    rcases mem_setPhase.1 hx with ⟨-, hne⟩ | ⟨y, hy, hi, rfl⟩
    · exact absurd hi hne
    · exact h.stored y hy hi
  task x hx hi := by
    rcases mem_setPhase.1 hx with ⟨-, hne⟩ | ⟨y, hy, hi, rfl⟩
    · exact absurd hi hne
    · obtain ⟨ho, -⟩ := h.task y hy hi
      exact ⟨⟨ho.key, ho.session, ho.period⟩, hp.of_eq rfl rfl rfl⟩

theorem endTask (h : Following k a header n s) : Following k a header n (s.endTask a.ticker) where
  created := h.created
  since := h.since
  entry := h.entry
  stored _ hx hi := absurd hi (mem_endTask.1 hx).2
  task _ hx hi := absurd hi (mem_endTask.1 hx).2

theorem keep (h : Following k a header n s) (hn : s.now ≤ s'.now)
    (hp : s'.population = s.population) (he : s'.subscriptions = s.subscriptions)
    (hc : s'.tickers.created = s.tickers.created) (hs : s.tickers.stopped ⊆ s'.tickers.stopped)
    (ht : s'.tasks = s.tasks) : Following k a header n s' where
  created := hc ▸ h.created
  since := Nat.le_trans h.since hn
  entry := he ▸ h.entry
  stored x hx hi := by
    rw [ht] at hx
    rw [he]
    exact (h.stored x hx hi).imp_right (@hs _)
  task x hx hi := by
    rw [ht] at hx
    obtain ⟨ho, hx⟩ := h.task x hx hi
    exact ⟨ho, hx.mono hn hp fun ho => he ▸ ho⟩

theorem release (h : Following k a header n s) (key : SubscriptionKey) (i : TickerId)
    (hi : a.ticker = i) :
    Following k a header n
      ({ s with subscriptions := s.subscriptions.release key i }.endTask i) where
  created := h.created
  since := h.since
  entry key' e he := by
    rw [endTask_subscriptions, Subscriptions.get?_release] at he
    split at he
    · cases he
    · exact h.entry key' e he
  stored _ hx hi' := absurd (hi'.trans hi) (mem_endTask.1 hx).2
  task _ hx hi' := absurd (hi'.trans hi) (mem_endTask.1 hx).2

theorem other (h : Following k a header n s) (hne : a.ticker ≠ t.ticker) (hs : TaskStep k s t s') :
    Following k a header n s' where
  created := hs.created_eq ▸ h.created
  since := hs.now_eq ▸ h.since
  entry key e he := h.entry key e (hs.get?_of_some he)
  stored x hx hi := by
    have hm := hs.mem_of_ne hx (hi ▸ hne)
    rw [hs.owns_of_ne hne]
    exact (h.stored x hm hi).imp_right hs.stopped_mono
  task x hx hi := by
    obtain ⟨ho, hp⟩ := h.task x (hs.mem_of_ne hx (hi ▸ hne)) hi
    refine ⟨ho, hp.mono (Nat.le_of_eq hs.now_eq.symm) hs.population_eq fun ho => ?_⟩
    rwa [hs.owns_of_ne hne]

theorem find (h : Following k a header n s) (ho : s.subscriptions.owns a.key a.ticker = true) :
    ∃ e, s.subscriptions.entries.get? a.key = some e ∧ e.accepted.head? = some a.action := by
  obtain ⟨e, he, hi⟩ := Subscriptions.owns_iff.1 ho
  exact ⟨e, he, h.entry _ e he hi⟩

theorem reported (h : Following k a header n s) (ht : t ∈ s.tasks) (hi : t.ticker = a.ticker)
    {r : Rhythm} {i : Indication} (hp : t.phase = .sending r i) (refused : Bool) :
    Reported k a header (n + 1)
      ⟨t.ticker, t.session, i, s.now, s.population.size, refused⟩ := by
  obtain ⟨ho, hs⟩ := h.task t ht hi
  rw [hp] at hs
  obtain ⟨hr, message, hm, rfl⟩ := hs
  refine ⟨ho.session, rfl, rfl, rfl, ?_, rfl, hr.header, ⟨_, toNat_measurement _, hm⟩, rfl, hr.time⟩
  simp only [report, Option.map_some, hr.sequence]
  rfl

theorem own (h : Following k a header n s) (ht : t ∈ s.tasks) (hi : t.ticker = a.ticker)
    (hs : TaskStep k s t s') : ∃ header', (t.phase ≠ .starting → header' = header) ∧
      Following k a header' (n + (s.handed t).length) s' := by
  obtain ⟨ho, hst⟩ := h.task t ht hi
  have hsince := h.since
  cases hs with
  | refused hp | lost hp | unbuilt hp | unsent hp | broke hp =>
      rw [hi]
      exact ⟨header, fun _ => rfl, h.setPhase trivial⟩
  | aborted hp | stopped hp | gone hp =>
      rw [handed, hp, hi]
      exact ⟨header, fun _ => rfl, h.endTask⟩
  | @began header' hp =>
      rw [hp] at hst
      obtain rfl : n = 0 := hst
      rw [handed, hp, hi, ho.period]
      refine ⟨header', fun hn => absurd rfl hn, h.setPhase ⟨rfl, rfl, ?_⟩⟩
      simp only [List.length_nil]
      omega
  | @ticked r hp hns _ hd =>
      rw [hp] at hst
      obtain ⟨hh, hq, hdue⟩ := hst
      have hown : s.subscriptions.owns a.key a.ticker = true := by
        refine (h.stored t ht hi).resolve_right fun hm => ?_
        rw [hi, Tickers.isStopped, decide_eq_false_iff_not] at hns
        exact hns hm
      have hnow := Nat.le_trans hdue hd
      rw [handed, hp, hi, ho.period]
      refine ⟨header, fun _ => rfl, h.setPhase ⟨⟨hh, ?_, hnow, ?_⟩, hown⟩⟩
      · simp only [Rhythm.tick, hq, List.length_nil, Nat.add_zero, UInt32.ofNat_add]
        rfl
      · have hnext : a.since + (n + 1) * a.period + a.period ≤ nextDue r.due s.now a.period :=
          le_nextDue hnow hdue
        rw [List.length_nil, Nat.add_zero, Nat.add_mul]
        rw [Nat.add_mul] at hnext
        simp only [Rhythm.tick]
        omega
  | @built r i hp he =>
      rw [hp] at hst
      obtain ⟨hr, hown⟩ := hst
      obtain ⟨e, hg, ha⟩ := h.find hown
      rw [ho.key, hg, Option.bind_some] at he
      obtain ⟨action, message, ha', hm, hrep⟩ := reportFor_eq_ok he
      obtain rfl := Option.some.inj (ha.symm.trans ha')
      rw [handed, hp, hi]
      exact ⟨header, fun _ => rfl, h.setPhase ⟨hr, message, hm, by rw [hrep, ho.key]⟩⟩
  | @sent r i hp =>
      rw [hp] at hst
      obtain ⟨hr, -⟩ := hst
      rw [handed, hp, hi]
      exact ⟨header, fun _ => rfl, h.setPhase ⟨hr.header, hr.sequence, hr.due⟩⟩
  | @arrived r i done hp =>
      rw [hp] at hst
      have hm : Following k a header n (s.modifyLink t.session fun l => l.record s.now i) :=
        h.keep (Nat.le_refl _) rfl rfl rfl (List.Subset.refl _) rfl
      rw [handed, hp, hi]
      exact ⟨header, fun _ => rfl, hm.setPhase hst⟩
  | silenced hp =>
      have hm : Following k a header n { s with tickers := s.tickers.stop t.ticker } :=
        h.keep (Nat.le_refl _) rfl rfl rfl (List.subset_cons_self _ _) rfl
      rw [handed, hp, hi] at *
      exact ⟨header, fun _ => rfl, hm.setPhase trivial⟩
  | released hp =>
      rw [handed, hp]
      exact ⟨header, fun _ => rfl, h.release t.key t.ticker hi.symm⟩

theorem subscribe (h : Following k a header n s) (id : SessionId) (r : SubscriptionRequest) :
    Following k a header n (k.subscription id r s).2 := by
  have old {x : ReportTask} (hx : x ∈ (k.subscription id r s).2.tasks) (hi : x.ticker = a.ticker) :
      x ∈ s.tasks := mem_of_mem_subscription hx (hi ▸ h.created)
  rcases subscription_cases k id r s with he | ⟨trigger, subscriptions, -, -, hadd, he⟩
  · rwa [he]
  · obtain ⟨hf, rfl⟩ := Subscriptions.add_eq_ok_iff.1 hadd
    have owns (ho : s.subscriptions.owns a.key a.ticker = true) : (Subscriptions.mk
        (s.subscriptions.entries.insert (admission r).key ⟨(admission r).key,
          (admission r).accepted, (admission r).refused, id, some s.tickers.next⟩)).owns
            a.key a.ticker = true := by
      rw [Subscriptions.owns_insert, if_neg ?_]
      · exact ho
      · intro hk
        obtain ⟨e, hg, -⟩ := Subscriptions.owns_iff.1 ho
        rw [hk, hf] at hg
        cases hg
    rw [he] at old
    rw [he]
    refine ⟨Nat.lt_succ_of_lt h.created, h.since, fun key e hg hi => ?_, fun x hx hi => ?_,
      fun x hx hi => ?_⟩
    · rw [Table.get?_insert] at hg
      split at hg
      · cases hg
        have hlt := h.created
        rw [← Option.some.inj hi] at hlt
        exact absurd hlt (Nat.lt_irrefl _)
      · exact h.entry key e hg hi
    · exact (h.stored x (old hx hi) hi).imp_left owns
    · obtain ⟨ho, hs⟩ := h.task x (old hx hi) hi
      exact ⟨ho, hs.mono (Nat.le_refl _) rfl owns⟩

theorem delete (h : Following k a header n s) (hs : s.Settled k) (r : SubscriptionDeleteRequest) :
    Following k a header n (Service.delete r s).2 where
  created := by rw [delete_created]; exact h.created
  since := by rw [delete_now]; exact h.since
  entry key e he hi := by
    rw [delete_get?] at he
    split at he
    · cases he
    · exact h.entry key e he hi
  stored x hx hi := by
    rw [delete_tasks] at hx
    rcases h.stored x hx hi with ho | hm
    · by_cases hk : a.key = .of r.request r.function
      · exact .inr ((mem_delete_stopped r s _).2 (.inr (hk ▸ ho)))
      · rw [Subscriptions.owns_iff] at ho
        rw [Subscriptions.owns_iff, delete_get?, if_neg hk]
        exact .inl ho
    · exact .inr ((mem_delete_stopped r s _).2 (.inl hm))
  task x hx hi := by
    rw [delete_tasks] at hx
    obtain ⟨ho, hp⟩ := h.task x hx hi
    exact ⟨ho, hp.idle (hs.idle hx)⟩

theorem populate (h : Following k a header n s) (hs : s.Settled k) (p : Population) :
    Following k a header n { s with population := p } where
  created := h.created
  since := h.since
  entry := h.entry
  stored := h.stored
  task x hx hi := by
    obtain ⟨ho, hp⟩ := h.task x hx hi
    exact ⟨ho, hp.idle (hs.idle hx)⟩

end Following

def Followed (k : Service) (a : Enrolment) (xs : List Handover) (s : Reporting) : Prop :=
  ∃ header, (∀ n x, xs[n]? = some x → Reported k a header (n + 1) x) ∧
    Following k a header xs.length s

theorem Followed.own {xs : List Handover} (h : Followed k a xs s) (ht : t ∈ s.tasks)
    (hi : t.ticker = a.ticker) (hs : TaskStep k s t s') :
    Followed k a (xs ++ handovers a.ticker (s.handed t)) s' := by
  obtain ⟨header, hx, hf⟩ := h
  obtain ⟨header', hh, hf'⟩ := hf.own ht hi hs
  by_cases hp : ∃ r i, t.phase = .sending r i
  · obtain ⟨r, i, hp⟩ := hp
    obtain rfl := hh (by rw [hp]; simp)
    have hr := hf.reported ht hi hp (s.refusal? t.session).isSome
    rw [handed_of_sending s hp] at hf' ⊢
    rw [handovers_handed hi]
    refine ⟨header', fun n x hn => ?_, by rwa [List.length_append]⟩
    by_cases hlt : n < xs.length
    · rw [List.getElem?_append_left hlt] at hn
      exact hx n x hn
    · rw [List.getElem?_append_right (Nat.not_lt.1 hlt), List.getElem?_singleton] at hn
      split at hn
      · cases hn
        rwa [show n = xs.length by omega]
      · cases hn
  · rw [handed_of_ne_sending s fun r i hs => hp ⟨r, i, hs⟩] at hf' ⊢
    rw [handovers_nil, List.append_nil]
    refine ⟨header', fun n x hn => ?_, hf'⟩
    obtain rfl := hh fun hp => by
      have hst := (hf.task t ht hi).2
      rw [hp] at hst
      rw [List.length_eq_zero_iff.1 hst] at hn
      cases hn
    exact hx n x hn

theorem Followed.happens {xs : List Handover} (h : Followed k a xs s) (hh : Happens k s es s') :
    Followed k a (xs ++ handovers a.ticker es) s' := by
  have quiet {s'' : Reporting} (es : List Event) (he : handovers a.ticker es = [])
      (hf : ∀ header n, Following k a header n s → Following k a header n s'') :
      Followed k a (xs ++ handovers a.ticker es) s'' := by
    obtain ⟨header, hx, h⟩ := h
    rw [he, List.append_nil]
    exact ⟨header, hx, hf _ _ h⟩
  have keep {s'' : Reporting} (es : List Event) (hes : handovers a.ticker es = [])
      (hn : s.now ≤ s''.now) (hp : s''.population = s.population)
      (he : s''.subscriptions = s.subscriptions) (hi : s''.tickers = s.tickers)
      (ht : s''.tasks = s.tasks) : Followed k a (xs ++ handovers a.ticker es) s'' :=
    quiet es hes fun _ _ h => h.keep hn hp he (hi ▸ rfl) (hi ▸ List.Subset.refl _) ht
  cases hh with
  | @task t s' ht hs =>
      have hstep := taskStep_of_step? hs
      by_cases hi : t.ticker = a.ticker
      · exact h.own ht hi hstep
      · exact quiet _ (handovers_handed_of_ne s hi) fun _ _ h => h.other (Ne.symm hi) hstep
  | @breaks t s' ht hs =>
      by_cases hi : t.ticker = a.ticker
      · obtain ⟨-, rfl⟩ := cut?_eq_some_iff.1 hs
        rw [hi]
        exact quiet _ rfl fun _ _ h => h.setPhase trivial
      · exact quiet _ rfl fun _ _ h => h.other (Ne.symm hi) (taskStep_of_cut? k hs)
  | pass hn => exact keep [] rfl hn rfl rfl rfl rfl
  | waver | connect => exact keep [] rfl (Nat.le_refl _) rfl rfl rfl rfl
  | close => exact keep [.closed _] rfl (Nat.le_refl _) rfl rfl rfl rfl
  | subscribe hs id r => exact quiet [] rfl fun _ _ h => h.subscribe id r
  | delete hs r => exact quiet [.deleted _] rfl fun _ _ h => h.delete hs r
  | populate hs p => exact quiet [] rfl fun _ _ h => h.populate hs p

end Reporting

end E2Node.Kpm
