import E2Node.Proofs.Kpm.Coherence
import Mathlib.Algebra.Order.BigOperators.Group.List
import Mathlib.Algebra.Order.Ring.Nat

namespace E2Node.Kpm

/-- Each report that is due by now takes four steps. -/
def Phase.rank (now : Nat) : Phase → Nat
  | .starting => 8
  | .waiting r => 4 * (now + 1 - r.due) + 4
  | .looking r => 4 * (now + 1 - r.due) + 7
  | .sending r _ => 4 * (now + 1 - r.due) + 6
  | .inFlight r _ _ => 4 * (now + 1 - r.due) + 5
  | .failing => 2
  | .releasing => 1

theorem Phase.rank_pos (now : Nat) (p : Phase) : 0 < p.rank now := by
  cases p <;> simp only [rank] <;> omega

theorem lt_nextDue (due now : Nat) {period : Nat} (hp : period ≠ 0) :
    due < nextDue due now period := by
  rw [nextDue]
  split <;> omega

namespace Reporting

variable {k : Service} {s s' : Reporting} {t : ReportTask}

def rank (s : Reporting) : Nat := (s.tasks.map fun t => t.phase.rank s.now).sum

theorem rank_le_stepsFor (s : Reporting) (t : ReportTask) : t.phase.rank s.now ≤ s.stepsFor t := by
  cases hp : t.phase <;> simp only [Phase.rank, stepsFor, Phase.due?, hp, Option.getD] <;> omega

theorem rank_setPhase_lt (ht : t ∈ s.tasks) {p : Phase} (h : s.Coherent)
    (hp : p.rank s.now < t.phase.rank s.now) : (s.setPhase t.ticker p).rank < s.rank := by
  simp only [rank, setPhase, List.map_map]
  apply List.sum_lt_sum
  · intro x hx
    simp only [Function.comp]
    split
    · obtain rfl := h.eq_of_ticker hx ht ‹_›
      exact Nat.le_of_lt hp
    · exact Nat.le_refl _
  · refine ⟨t, ht, ?_⟩
    simpa only [Function.comp, if_true] using hp

theorem rank_endTask_lt (ht : t ∈ s.tasks) : (s.endTask t.ticker).rank < s.rank := by
  have hm : t ∈ s.tasks.filter fun x => ¬ x.ticker ≠ t.ticker := by simp [ht]
  have hle := List.single_le_sum (fun _ _ => Nat.zero_le _) _
    (List.mem_map_of_mem (f := fun x => x.phase.rank s.now) hm)
  have hadd := List.sum_map_filter_add_sum_map_filter_not (fun x => x.ticker ≠ t.ticker)
    (fun x => x.phase.rank s.now) s.tasks
  have hpos := t.phase.rank_pos s.now
  simp only [rank, endTask]
  omega

theorem rank_lt (h : s.Coherent) (ht : t ∈ s.tasks) (hs : TaskStep k s t s') :
    s'.rank < s.rank := by
  have hp0 := h.positive t ht
  cases hs with
  | refused hp | began hp | lost hp | unbuilt hp | built hp | unsent hp | sent hp | broke hp =>
      refine rank_setPhase_lt ht h ?_
      rw [hp]
      simp only [Phase.rank]
      omega
  | @ticked r hp _ _ hd =>
      refine rank_setPhase_lt ht h ?_
      have := lt_nextDue r.due s.now hp0
      rw [hp]
      simp only [Phase.rank, Rhythm.tick]
      omega
  | aborted | stopped | gone => exact rank_endTask_lt ht
  | arrived hp =>
      refine rank_setPhase_lt (s := s.modifyLink t.session _) ht
        (h.modifyLink t.session (Link.record_onward s.now _)) ?_
      rw [hp]
      simp only [Phase.rank, modifyLink_now]
      omega
  | silenced hp =>
      refine rank_setPhase_lt (s := { s with tickers := s.tickers.stop t.ticker }) ht
        (h.stop ht (.inl hp)) ?_
      rw [hp]
      simp [Phase.rank]
  | released hp =>
      exact rank_endTask_lt
        (s := { s with subscriptions := s.subscriptions.release t.key t.ticker }) ht

theorem TaskStep.now_eq (h : TaskStep k s t s') : s'.now = s.now := by
  cases h <;> rfl

theorem TaskStep.sendDelay_eq (h : TaskStep k s t s') (id : SessionId) :
    s'.sendDelay id = s.sendDelay id := by
  cases h with
  | arrived => exact sendDelay_modifyLink s t.session id (Link.record_onward s.now _)
  | _ => rfl

theorem run_keeps {P : Reporting → Prop}
    (hP : ∀ s t s', t ∈ s.tasks → s.step? k t = some s' → P s → P s') (n : Nat) (h : P s) :
    P (s.run k n) := by
  induction n generalizing s with
  | zero => exact h
  | succ n ih =>
      simp only [run]
      cases hf : s.tasks.findSome? (s.step? k) with
      | none => exact h
      | some s' =>
          obtain ⟨t, ht, hs⟩ := List.exists_of_findSome?_eq_some hf
          exact ih (hP s t s' ht hs h)

theorem run_settled (h : s.Coherent) {n : Nat} (hn : s.rank ≤ n) : (s.run k n).Settled k := by
  induction n generalizing s with
  | zero =>
      intro t ht
      have := rank_endTask_lt ht
      simp only [run] at *
      omega
  | succ n ih =>
      simp only [run]
      cases hf : s.tasks.findSome? (s.step? k) with
      | none => exact List.findSome?_eq_none_iff.1 hf
      | some s' =>
          obtain ⟨t, ht, hs⟩ := List.exists_of_findSome?_eq_some hf
          have hlt := rank_lt h ht (taskStep_of_step? hs)
          exact ih (h.move (.task k ht hs)) (by omega)

theorem settle_leads (k : Service) (s : Reporting) : Leads s (s.settle k) :=
  run_keeps (fun _ _ _ ht hs h => h.tail (.task k ht hs)) _ .refl

theorem settle_now (k : Service) (s : Reporting) : (s.settle k).now = s.now :=
  run_keeps (fun _ _ _ _ hs h => (taskStep_of_step? hs).now_eq.trans h) _ rfl

theorem settle_sendDelay (k : Service) (s : Reporting) (id : SessionId) :
    (s.settle k).sendDelay id = s.sendDelay id :=
  run_keeps (fun _ _ _ _ hs h => ((taskStep_of_step? hs).sendDelay_eq id).trans h) _ rfl

theorem settle_settled (h : s.Coherent) : (s.settle k).Settled k := by
  refine run_settled h ?_
  rw [← List.sum_eq_foldl_nat]
  exact List.sum_le_sum fun t _ => rank_le_stepsFor s t

theorem leap_keeps {P : Reporting → Prop}
    (hP : ∀ s t s', t ∈ s.tasks → s.step? k t = some s' → P s → P s')
    (hn : ∀ s now, s.now ≤ now → P s → P (s.atTime now)) (target n : Nat) (ht : s.now ≤ target)
    (h : P s) : P (s.leap k target n) := by
  induction n generalizing s with
  | zero => exact hn s target ht h
  | succ n ih =>
      simp only [leap]
      cases s.nextWake? with
      | none => exact hn s target ht h
      | some w =>
          by_cases hw : w ≤ target
          · simp only [hw, if_true]
            refine ih ?_ (run_keeps hP _ (hn s _ (Nat.le_max_left s.now w) h))
            rw [settle_now]
            exact Nat.max_le.2 ⟨ht, hw⟩
          · simp only [hw, if_false]
            exact hn s target ht h

end Reporting

end E2Node.Kpm
