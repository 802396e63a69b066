import E2Node.Proofs.Kpm.Admission
import E2Node.Proofs.Kpm.Frame

namespace E2Node.Kpm

/-- The reporting of a node, with the entries that delete requests have taken and whose tickers they
have yet to stop. -/
structure Overlap where
  reporting : Reporting
  deleting : List Subscription

namespace Overlap

inductive Event
  | admitted (key : SubscriptionKey) (i : TickerId)
  | removed (key : SubscriptionKey)
  | deleted (i : Option TickerId)
  | handed (i : TickerId) (x : Indication)
  | arrived (i : TickerId)
  | exited (i : TickerId)
  | other
  deriving DecidableEq

def event (t : ReportTask) : Event :=
  match t.phase with
  | .sending _ x => .handed t.ticker x
  | .inFlight .. => .arrived t.ticker
  | .releasing => .exited t.ticker
  | _ => .other

def start (p : Population) (epoch : Int) : Overlap := ⟨.start p epoch, []⟩

def stored? (c : Overlap) (key : SubscriptionKey) : Option Subscription :=
  c.reporting.subscriptions.entries.get? key

/-- One step of a task or of a request, or of the world around them: sessions open, close, fail and
slow down, subscribers come and go, and time passes. Requests that change nothing are left out. -/
inductive Happens (c : Overlap) : Event → Overlap → Prop
  | task (k : Service) {t s} (ht : t ∈ c.reporting.tasks) (hs : c.reporting.step? k t = some s) :
      Happens c (event t) { c with reporting := s }
  | breaks {t s} (ht : t ∈ c.reporting.tasks) (hs : c.reporting.cut? t = some s) :
      Happens c .other { c with reporting := s }
  | admits (k : Service) (id) (r) {m}
      (hm : (k.subscription id r c.reporting).1 = .ok (.success m)) :
      Happens c (.admitted (.of r.request r.function) c.reporting.tickers.next)
        { c with reporting := (k.subscription id r c.reporting).2 }
  | removes {key e s} (hr : c.reporting.take key = .ok (e, s)) :
      Happens c (.removed key) ⟨s, e :: c.deleting⟩
  | stops {before e after} (hd : c.deleting = before ++ e :: after) :
      Happens c (.deleted e.ticker) ⟨c.reporting.silence e, before ++ after⟩
  | around (now : Nat) (links : List Link) (p : Population) : Happens c .other
      { c with reporting := { c.reporting with now := now, links := links, population := p } }

inductive Course (c : Overlap) : List Event → Overlap → Prop
  | refl : Course c [] c
  | tail {es e d d'} (h : Course c es d) (hh : Happens d e d') : Course c (es ++ [e]) d'

variable {c c' d : Overlap} {e : Event} {es fs : List Event} {k : Service} {s s' : Reporting}
  {t x : ReportTask} {key : SubscriptionKey} {i : TickerId} {u : Subscription}

theorem Course.trans (h : Course c es c') (h' : Course c' fs d) : Course c (es ++ fs) d := by
  induction h' with
  | refl => rwa [List.append_nil]
  | tail _ hh ih =>
      rw [← List.append_assoc]
      exact ih.tail hh

theorem Course.head (hh : Happens c e c') (h : Course c' es d) : Course c (e :: es) d :=
  Course.trans (.tail .refl hh) h

theorem run_course (k : Service) (n : Nat) (c : Overlap) :
    ∃ es, Course c es { c with reporting := c.reporting.run k n } := by
  induction n generalizing c with
  | zero => exact ⟨[], .refl⟩
  | succ n ih =>
      rw [Reporting.run]
      cases hf : c.reporting.tasks.findSome? (c.reporting.step? k) with
      | none => exact ⟨[], .refl⟩
      | some s =>
          obtain ⟨t, ht, hs⟩ := List.exists_of_findSome?_eq_some hf
          obtain ⟨es, h⟩ := ih { c with reporting := s }
          exact ⟨event t :: es, .head (.task k ht hs) h⟩

theorem delete_course {r : SubscriptionDeleteRequest} {s : Reporting}
    (hg : s.subscriptions.entries.get? (.of r.request r.function) = some u)
    (deleting : List Subscription) :
    Course ⟨s, deleting⟩ [.removed (.of r.request r.function), .deleted u.ticker]
      ⟨(Service.delete r s).2, deleting⟩ := by
  have ht := Reporting.take_eq_ok_iff.2 ⟨hg, rfl⟩
  simp only [Service.delete, ht]
  exact (Course.refl.tail (.removes ht)).tail (@Happens.stops _ [] u deleting rfl)

theorem admission_cases {id : SessionId} {r : SubscriptionRequest} {m : SubscriptionResponse}
    (hm : (k.subscription id r s).1 = .ok (.success m)) :
    s.subscriptions.entries.get? (.of r.request r.function) = none ∧
      ∃ accepted refused period, (k.subscription id r s).2 = { s with
        subscriptions := ⟨s.subscriptions.entries.insert (.of r.request r.function)
          ⟨.of r.request r.function, accepted, refused, id, some s.tickers.next⟩⟩
        tickers := s.tickers.create
        tasks := s.tasks ++
          [⟨.of r.request r.function, id, period, s.tickers.next, .starting⟩] } := by
  obtain ⟨o, h⟩ := exists_decision k id r s
  rw [h.eq] at hm ⊢
  cases h with
  | admitted hw ha ht hk => exact ⟨hk, _, _, _, rfl⟩
  | malformed | unreportable | untimed | taken => cases hm

theorem entry_of_taskStep (h : Reporting.TaskStep k s t s')
    (hg : s.subscriptions.entries.get? key = some u) :
    s'.subscriptions.entries.get? key = some u ∨
      s'.subscriptions.entries.get? key = none ∧ t.key = key ∧ u.ticker = some t.ticker ∧
        event t = .exited t.ticker := by
  cases h with
  | released hp =>
      rw [Reporting.endTask_subscriptions, Subscriptions.get?_release]
      split
      · rename_i ho
        obtain ⟨rfl, ho⟩ := ho
        obtain ⟨u', hu, hi⟩ := Subscriptions.owns_iff.1 ho
        cases hg.symm.trans hu
        exact .inr ⟨rfl, rfl, hi, by rw [event, hp]⟩
      · exact .inl hg
  | _ => exact .inl hg

theorem Happens.entry (hh : Happens c e c') (hg : c.stored? key = some u) :
    c'.stored? key = some u ∨ c'.stored? key = none ∧ (e = .removed key ∨
      ∃ t ∈ c.reporting.tasks, t.key = key ∧ u.ticker = some t.ticker ∧ e = .exited t.ticker) := by
  cases hh with
  | @task k t s ht hs =>
      rcases entry_of_taskStep (Reporting.taskStep_of_step? hs) hg with h | ⟨hn, hk, hi, he⟩
      · exact .inl h
      · exact .inr ⟨hn, .inr ⟨t, ht, hk, hi, he⟩⟩
  | admits k id r hm =>
      obtain ⟨hf, accepted, refused, period, hs⟩ := admission_cases hm
      refine .inl ?_
      have hne : key ≠ .of r.request r.function := by
        rintro rfl
        cases hg.symm.trans hf
      rw [stored?, hs, Table.get?_insert, if_neg hne]
      exact hg
  | @removes key' u' _ hr =>
      obtain ⟨-, rfl⟩ := Reporting.take_eq_ok_iff.1 hr
      rw [stored?, Table.get?_erase]
      by_cases hk : key = key'
      · exact .inr ⟨if_pos hk, .inl (by rw [hk])⟩
      · exact .inl ((if_neg hk).trans hg)
  | @stops before u' after hd =>
      refine .inl ?_
      rw [stored?, Reporting.silence_subscriptions]
      exact hg
  | breaks ht hs =>
      obtain ⟨-, rfl⟩ := Reporting.cut?_eq_some_iff.1 hs
      exact .inl hg
  | around => exact .inl hg

end Overlap

end E2Node.Kpm
