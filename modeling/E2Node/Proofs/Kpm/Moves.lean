import E2Node.Proofs.Kpm.TaskStep
import E2Node.Proofs.Subscription.Registry
import Mathlib.Logic.Relation

namespace E2Node

/-- What may happen to a session: once it has ended it stays so, and it keeps its pace. -/
structure Link.Onward (f : Link → Link) : Prop where
  closed : ∀ l, l.closed = true → (f l).closed = true
  sendDelay : ∀ l, (f l).sendDelay = l.sendDelay

theorem Link.close_onward : Onward close := ⟨fun _ _ => rfl, fun _ => rfl⟩

theorem Link.record_onward (now : Nat) (i : Indication) : Onward (·.record now i) :=
  ⟨fun _ h => h, fun _ => rfl⟩

namespace Kpm

def ElementCodec.RefusesZero (c : ElementCodec) : Prop :=
  ∀ bytes t, c.readTrigger bytes = .ok t → t.periodMillis ≠ 0

theorem readTrigger_refusesZero {bytes : List UInt8} {t : EventTrigger}
    (h : readTrigger bytes = .ok t) : t.periodMillis ≠ 0 := by
  rw [readTrigger] at h
  split at h
  · cases h
  · rename_i u _
    rw [EventTrigger.fault?] at h
    by_cases h0 : u.periodMillis = 0
    · simp [h0] at h
    · simp only [h0, if_false, Except.ok.injEq] at h
      exact h ▸ h0

theorem ElementCodec.standard_refusesZero : standard.RefusesZero := fun _ _ =>
  readTrigger_refusesZero

namespace Reporting

theorem sendDelay_modifyLink (s : Reporting) (id id' : SessionId) {f : Link → Link}
    (hf : Link.Onward f) : (s.modifyLink id f).sendDelay id' = s.sendDelay id' := by
  simp only [sendDelay, link?_modifyLink]
  cases s.link? id' with
  | none => rfl
  | some l =>
      simp only [Option.map_some]
      split
      · exact hf.sendDelay l
      · rfl

theorem sendDelay_connect (s : Reporting) (l : Link) (id : SessionId) :
    s.sendDelay id ≤ Reporting.sendDelay { s with links := s.links ++ [l] } id := by
  simp only [sendDelay, link?]
  by_cases h : id.val < s.links.length
  · exact Nat.le_of_eq (by rw [List.getElem?_append_left h])
  · rw [List.getElem?_eq_none (Nat.not_lt.1 h)]
    exact Nat.zero_le _

/-- Tasks and requests may find another codec at each move, so that any encoding may fail at any
time. -/
inductive Move : Reporting → Reporting → Prop
  | task {s s'} (k : Service) {t} (ht : t ∈ s.tasks) (h : s.step? k t = some s') : Move s s'
  | cut {s s' t} (ht : t ∈ s.tasks) (h : s.cut? t = some s') : Move s s'
  | subscribe (s) (k : Service) (hk : k.codec.RefusesZero) (id) (r) :
      Move s (k.subscription id r s).2
  | delete (s) (r) : Move s (Service.delete r s).2
  | connect (s) (l : Link) : Move s { s with links := s.links ++ [l] }
  | link (s) (id) {f} (hf : Link.Onward f) : Move s (s.modifyLink id f)
  | populate (s) (p : Population) : Move s { s with population := p }
  | pass (s) {now} (h : s.now ≤ now) : Move s (s.atTime now)

abbrev Leads : Reporting → Reporting → Prop := Relation.ReflTransGen Move

theorem subscription_cases (k : Service) (id : SessionId) (r : SubscriptionRequest)
    (s : Reporting) : (k.subscription id r s).2 = s ∨
      ∃ trigger subscriptions, k.codec.readTrigger r.eventTrigger = .ok trigger ∧
        (admission r).accepted ≠ [] ∧
        s.subscriptions.add ⟨(admission r).key, (admission r).accepted, (admission r).refused, id,
          some s.tickers.next⟩ = .ok subscriptions ∧
        (k.subscription id r s).2 = { s with
          subscriptions := subscriptions
          tickers := s.tickers.create
          tasks := s.tasks ++ [⟨(admission r).key, id, trigger.periodMillis.toNat,
            s.tickers.next, .starting⟩] } := by
  simp only [Service.subscription]
  cases r.fault? with
  | some f => exact .inl rfl
  | none =>
      by_cases hany : (admission r).anyAccepted = true
      · simp only [hany, if_true]
        cases ht : k.codec.readTrigger r.eventTrigger with
        | error e => exact .inl rfl
        | ok trigger =>
            simp only [enrol]
            cases ha : s.subscriptions.add ⟨(admission r).key, (admission r).accepted,
                (admission r).refused, id, some s.tickers.next⟩ with
            | error e => cases e <;> exact .inl rfl
            | ok subscriptions =>
                exact .inr ⟨trigger, subscriptions, rfl,
                  by simpa [Admission.anyAccepted] using hany, rfl, rfl⟩
      · simp only [hany]
        exact .inl rfl

theorem take_eq_ok_iff {s s' : Reporting} {key : SubscriptionKey} {e : Subscription} :
    s.take key = .ok (e, s') ↔ s.subscriptions.entries.get? key = some e ∧
      s' = { s with subscriptions := ⟨s.subscriptions.entries.erase key⟩ } := by
  rw [take]
  cases hr : s.subscriptions.remove key with
  | error er =>
      refine iff_of_false nofun fun ⟨hg, _⟩ => ?_
      rw [Subscriptions.remove_eq_ok_iff.2 ⟨hg, rfl⟩] at hr
      cases hr
  | ok found =>
      obtain ⟨hg, hs⟩ := Subscriptions.remove_eq_ok_iff.1 hr
      simp [hg, hs, eq_comm]

section Silence

variable (s : Reporting) (e : Subscription)

@[simp]
theorem silence_subscriptions : (s.silence e).subscriptions = s.subscriptions := by
  rw [silence]
  cases e.ticker <;> rfl

@[simp]
theorem silence_tasks : (s.silence e).tasks = s.tasks := by
  rw [silence]
  cases e.ticker <;> rfl

@[simp]
theorem silence_created : (s.silence e).tickers.created = s.tickers.created := by
  rw [silence]
  cases e.ticker <;> rfl

theorem mem_silence_stopped (i : TickerId) :
    i ∈ (s.silence e).tickers.stopped ↔ e.ticker = some i ∨ i ∈ s.tickers.stopped := by
  rw [silence]
  cases e.ticker with
  | none => simp
  | some j => simp [Tickers.stop, eq_comm]

end Silence

theorem delete_cases (r : SubscriptionDeleteRequest) (s : Reporting) :
    s.subscriptions.entries.get? (.of r.request r.function) = none ∧
      (Service.delete r s).2 = s ∨
      ∃ e, s.subscriptions.entries.get? (.of r.request r.function) = some e ∧
        (Service.delete r s).2 = { s with
          subscriptions := ⟨s.subscriptions.entries.erase (.of r.request r.function)⟩
          tickers := match e.ticker with
            | some i => s.tickers.stop i
            | none => s.tickers } := by
  simp only [Service.delete]
  cases ht : s.take (.of r.request r.function) with
  | error e =>
      refine .inl ⟨?_, rfl⟩
      cases hg : s.subscriptions.entries.get? (.of r.request r.function) with
      | none => rfl
      | some u =>
          rw [take_eq_ok_iff.2 ⟨hg, rfl⟩] at ht
          cases ht
  | ok taken =>
      obtain ⟨e, s'⟩ := taken
      obtain ⟨hg, rfl⟩ := take_eq_ok_iff.1 ht
      refine .inr ⟨e, hg, ?_⟩
      simp only [silence]
      cases e.ticker <;> rfl

end Reporting

end Kpm

end E2Node
