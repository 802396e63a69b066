import E2Node.Proofs.Kpm.Settling

namespace E2Node.Kpm

/-- A report as it is given to the channel of its session. -/
structure Handover where
  ticker : TickerId
  session : SessionId
  indication : Indication
  time : Nat
  ues : Nat
  refused : Bool
  deriving DecidableEq

inductive Event
  | handed (x : Handover)
  | broke (ticker : TickerId)
  | deleted (key : SubscriptionKey)
  | closed (session : SessionId)
  deriving DecidableEq

def Event.handover? (i : TickerId) : Event → Option Handover
  | .handed x => if x.ticker = i then some x else none
  | _ => none

def handovers (i : TickerId) (es : List Event) : List Handover := es.filterMap (Event.handover? i)

@[simp]
theorem handovers_nil (i : TickerId) : handovers i [] = [] := rfl

theorem handovers_handed {i : TickerId} {x : Handover} (h : x.ticker = i) :
    handovers i [.handed x] = [x] := by
  simp [handovers, Event.handover?, h]

@[simp]
theorem handovers_append (i : TickerId) (es fs : List Event) :
    handovers i (es ++ fs) = handovers i es ++ handovers i fs := List.filterMap_append

namespace Reporting

instance (k : Service) (s : Reporting) : Decidable (s.Settled k) :=
  decidable_of_iff (∀ t ∈ s.tasks, (s.step? k t).isNone = true) (by simp [Settled])

def handed (s : Reporting) (t : ReportTask) : List Event :=
  match t.phase with
  | .sending _ i =>
      [.handed ⟨t.ticker, t.session, i, s.now, s.population.size, (s.refusal? t.session).isSome⟩]
  | _ => []

inductive Happens (k : Service) (s : Reporting) : List Event → Reporting → Prop
  | task {t s'} (ht : t ∈ s.tasks) (h : s.step? k t = some s') : Happens k s (s.handed t) s'
  | breaks {t s'} (ht : t ∈ s.tasks) (h : s.cut? t = some s') : Happens k s [.broke t.ticker] s'
  | pass {now} (hn : s.now ≤ now) : Happens k s [] (s.atTime now)
  | waver (id) (failing) (delay) : Happens k s []
      (s.modifyLink id fun l => { l with failing := failing, sendDelay := delay })
  | subscribe (hs : s.Settled k) (id) (r) : Happens k s [] (k.subscription id r s).2
  | delete (hs : s.Settled k) (r) :
      Happens k s [.deleted (.of r.request r.function)] (Service.delete r s).2
  | connect (hs : s.Settled k) (l : Link) : Happens k s [] { s with links := s.links ++ [l] }
  | close (hs : s.Settled k) {id l} (hl : s.link? id = some l) :
      Happens k s [.closed id] (s.modifyLink id Link.close)
  | populate (hs : s.Settled k) (p : Population) : Happens k s [] { s with population := p }

inductive Course (k : Service) (s : Reporting) : List Event → Reporting → Prop
  | refl : Course k s [] s
  | tail {es es' s' s''} (h : Course k s es s') (hh : Happens k s' es' s'') :
      Course k s (es ++ es') s''

variable {k : Service} {s s' s'' : Reporting} {t x : ReportTask} {es es' : List Event}

theorem Course.trans (h : Course k s es s') (h' : Course k s' es' s'') :
    Course k s (es ++ es') s'' := by
  induction h' with
  | refl => rwa [List.append_nil]
  | tail _ hh ih =>
      rw [← List.append_assoc]
      exact ih.tail hh

theorem Course.quietly (h : Course k s es s') (hh : Happens k s' [] s'') : Course k s es s'' := by
  rw [← List.append_nil es]
  exact h.tail hh

theorem Course.head (hh : Happens k s es s') (h : Course k s' es' s'') :
    Course k s (es ++ es') s'' := Course.trans (.tail .refl hh) h

def record (k : Service) : Nat → Reporting → List Event × Reporting
  | 0, s => ([], s)
  | n + 1, s =>
      match s.tasks.findSome? fun t => (s.step? k t).map (s.handed t, ·) with
      | some (es, s') => (es ++ (record k n s').1, (record k n s').2)
      | none => ([], s)

theorem record_run (k : Service) (n : Nat) (s : Reporting) : (record k n s).2 = s.run k n := by
  induction n generalizing s with
  | zero => rfl
  | succ n ih =>
      rw [record, run]
      have h : (s.tasks.findSome? fun t => (s.step? k t).map (s.handed t, ·)).map Prod.snd =
          s.tasks.findSome? (s.step? k) := by
        rw [List.map_findSome?]
        congr 1
        funext t
        simp only [Function.comp, Option.map_map]
        exact Option.map_id'
      rw [← h]
      cases s.tasks.findSome? fun t => (s.step? k t).map (s.handed t, ·) with
      | none => rfl
      | some r => exact ih r.2

theorem record_course (k : Service) (n : Nat) (s : Reporting) :
    Course k s (record k n s).1 (record k n s).2 := by
  induction n generalizing s with
  | zero => exact .refl
  | succ n ih =>
      rw [record]
      cases hf : s.tasks.findSome? fun t => (s.step? k t).map (s.handed t, ·) with
      | none => exact .refl
      | some r =>
          obtain ⟨t, ht, hs⟩ := List.exists_of_findSome?_eq_some hf
          obtain ⟨s', hs', rfl⟩ := Option.map_eq_some_iff.1 hs
          exact .head (.task ht hs') (ih s')

theorem settle_course (k : Service) (s : Reporting) : ∃ es, Course k s es (s.settle k) := by
  have h := record_course k ((s.tasks.map s.stepsFor).foldl (· + ·) 0) s
  rw [record_run] at h
  exact ⟨_, h⟩

theorem advance_course (k : Service) (s : Reporting) (millis : Nat) :
    ∃ es, Course k s es (s.advance k millis) := by
  refine leap_keeps (P := fun s' => ∃ es, Course k s es s') ?_ ?_ _ _ (Nat.le_add_right _ _)
    ⟨[], .refl⟩
  · rintro s' t s'' ht hs ⟨es, h⟩
    exact ⟨_, h.tail (.task ht hs)⟩
  · rintro s' now hn ⟨es, h⟩
    exact ⟨_, h.tail (.pass hn)⟩

end Reporting

end E2Node.Kpm
