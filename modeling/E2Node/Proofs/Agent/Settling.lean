import E2Node.Proofs.Agent.Calls
import E2Node.Proofs.Agent.Runs

namespace E2Node.Lifecycle

variable {c : AgentConfig} {l l' : Lifecycle}

/-- A call may still wait for a connection, or for the answer to its setup. -/
structure Settled (c : AgentConfig) (l : Lifecycle) : Prop where
  calls : l.holder = some .connecting ∨ callStep? c l = none
  monitors : l.monitorStep? = none
  tasks : l.node.reporting.Settled c.kpm

def momentsLeft (l : Lifecycle) : Nat :=
  match l.holder with
  | none => 0
  | some .connecting => 4
  | some (.attached _) => 3
  | some (.settingUp _ _) => 2
  | some (.givingUp _ _) | some (.closing _) => 1

/-- A call takes at most five moments, and a setup that succeeds leaves a monitor. -/
def rank (l : Lifecycle) : Nat := 5 * l.waiting.length + l.momentsLeft + l.monitors.length

theorem rank_le_momentsFor (l : Lifecycle) : l.rank ≤ l.momentsFor := by
  have hl : l.momentsLeft ≤ 4 := by
    rw [momentsLeft]
    split <;> omega
  rw [rank, momentsFor]
  omega

theorem rank_lt_of_callStep (h : CallStep c l l') : l'.rank < l.rank := by
  cases h with
  | refused hh hw | begun hh hw | stopped hh hw | stopping hh hw =>
      simp only [rank, momentsLeft, hh, hw, List.length_cons]
      omega
  | unconnected hh | connected hh | pended hh | rejected hh =>
      simp only [rank, momentsLeft, hh]
      omega
  | gaveUp hh | closed hh =>
      show 5 * l.waiting.length + 0 + l.monitors.length < l.rank
      simp only [rank, momentsLeft, hh]
      omega
  | accepted hh =>
      simp only [rank, momentsLeft, hh, List.length_append, List.length_singleton]
      omega

theorem rank_lt_of_monitorStep? (h : l.monitorStep? = some l') : l'.rank < l.rank := by
  obtain ⟨hh, m, hm, -, rfl⟩ := monitorStep?_eq_some h
  have hp := List.length_pos_of_mem hm
  simp only [rank, momentsLeft, List.length_erase_of_mem hm]
  omega

theorem run_rests {n : Nat} (hn : l.rank ≤ n) :
    callStep? c (l.run c n) = none ∧ (l.run c n).monitorStep? = none := by
  induction n generalizing l with
  | zero =>
      rw [run]
      constructor
      · refine Option.eq_none_iff_forall_ne_some.2 fun l' hs => ?_
        have := rank_lt_of_callStep (callStep_of_callStep? hs)
        omega
      · refine Option.eq_none_iff_forall_ne_some.2 fun l' hs => ?_
        have := rank_lt_of_monitorStep? hs
        omega
  | succ n ih =>
      rw [run]
      cases hs : callStep? c l with
      | some l' =>
          have := rank_lt_of_callStep (callStep_of_callStep? hs)
          exact ih (by omega)
      | none =>
          simp only [Option.orElse_none]
          cases he : l.monitorStep? with
          | some l' =>
              have := rank_lt_of_monitorStep? he
              exact ih (by omega)
          | none => exact ⟨hs, he⟩

theorem callStep?_eq_none_iff : callStep? c l = none ↔ l.holder = none ∧ l.waiting = [] ∨
    ∃ s answered, l.holder = some (.settingUp s answered) ∧ l.now < answered := by
  rw [callStep?]
  split
  · rename_i hh
    cases hw : l.waiting <;> simp [hh]
  · simp [*]
  · simp [*]
  · rename_i s answered hh
    simp [hh]
  · simp [*]
  · simp [*]

theorem settle_tasks_callStep? (h : callStep? c l = none) (k : Kpm.Service) :
    callStep? c (l.modifyReporting fun r => r.settle k) = none := by
  rw [callStep?_eq_none_iff] at h ⊢
  refine h.imp_right fun ⟨s, answered, hh, hn⟩ => ⟨s, answered, hh, ?_⟩
  show (l.node.reporting.settle k).now < answered
  rwa [Kpm.Reporting.settle_now]

theorem settle_tasks_monitorStep? (h : l.monitorStep? = none) (k : Kpm.Service) :
    monitorStep? (l.modifyReporting fun r => r.settle k) = none := by
  rw [monitorStep?_eq_none_iff] at h ⊢
  intro hh m hm
  exact (Kpm.Reporting.settle_isClosed k _ m.session).trans (h hh m hm)

theorem Sound.settle_settled (h : l.Sound) (hm : c.models.models = [Node.kpm c.kpm])
    (hk : c.kpm.codec.RefusesZero) : (l.settle c).Settled c := by
  obtain ⟨hc, hw⟩ := run_rests (c := c) (rank_le_momentsFor l)
  exact ⟨.inr (settle_tasks_callStep? hc c.kpm), settle_tasks_monitorStep? hw c.kpm,
    Kpm.Reporting.settle_settled (h.runs hm hk (run_runs c _ l)).coherent⟩

end E2Node.Lifecycle
