import E2Node.Proofs.Agent.Moments

namespace E2Node.Lifecycle

variable {c : AgentConfig} {l : Lifecycle}

theorem serve_runs (c : AgentConfig) (p : Pdu) (l : Lifecycle) : Runs c l (l.serve c p).2 :=
  .single (.serve l p)

theorem monitorStep?_eq_some {l' : Lifecycle} (h : l.monitorStep? = some l') :
    l.holder = none ∧ ∃ m ∈ l.monitors, l.node.reporting.isClosed m.session = true ∧
      l' = { l with agent := l.agent.sessionEnded m, monitors := l.monitors.erase m } := by
  rw [monitorStep?] at h
  split at h
  · cases h
  · rename_i hh
    split at h
    · cases h
    · rename_i m hf
      cases h
      have hc := List.find?_some hf
      exact ⟨Option.not_isSome_iff_eq_none.1 hh, m, List.mem_of_find?_eq_some hf, hc, rfl⟩

theorem monitorStep?_eq_none_iff : l.monitorStep? = none ↔ (l.holder = none →
    ∀ m ∈ l.monitors, l.node.reporting.isClosed m.session = false) := by
  rw [monitorStep?]
  split
  · rename_i hh
    exact iff_of_true rfl fun hn => by simp [hn] at hh
  · rename_i hh
    rw [Option.not_isSome_iff_eq_none] at hh
    cases hf : l.monitors.find? fun m => l.node.reporting.isClosed m.session with
    | none => simpa [hh] using hf
    | some m =>
        have hc := List.find?_some hf
        refine iff_of_false (by simp) fun h => ?_
        simp [h hh m (List.mem_of_find?_eq_some hf)] at hc

theorem move_of_monitorStep? {l' : Lifecycle} (h : l.monitorStep? = some l') : Move c l l' := by
  obtain ⟨hh, m, hm, hc, rfl⟩ := monitorStep?_eq_some h
  exact .monitor hh hm hc

theorem run_keeps {P : Lifecycle → Prop} (hc : ∀ l l', P l → callStep? c l = some l' → P l')
    (hm : ∀ l l', P l → l.monitorStep? = some l' → P l') (n : Nat) (h : P l) :
    P (l.run c n) := by
  induction n generalizing l with
  | zero => exact h
  | succ n ih =>
      rw [run]
      cases hs : callStep? c l with
      | some l' => exact ih (hc l l' h hs)
      | none =>
          simp only [Option.orElse_none]
          cases he : l.monitorStep? with
          | some l' => exact ih (hm l l' h he)
          | none => exact h

theorem run_runs (c : AgentConfig) (n : Nat) (l : Lifecycle) : Runs c l (l.run c n) :=
  run_keeps (P := Runs c l) (fun _ _ h hs => h.tail (.call hs))
    (fun _ _ h he => h.tail (move_of_monitorStep? he)) n .refl

theorem Runs.task {s s' : Kpm.Reporting} {k : Kpm.Service} {t : Kpm.ReportTask}
    (h : Runs c l (l.modifyReporting fun _ => s)) (ht : t ∈ s.tasks) (hs : s.step? k t = some s') :
    Runs c l (l.modifyReporting fun _ => s') :=
  h.tail (.report (.task k ht hs) (Kpm.Reporting.taskStep_of_step? hs).length_links)

theorem Runs.pass {s : Kpm.Reporting} {now : Nat} (h : Runs c l (l.modifyReporting fun _ => s))
    (hn : s.now ≤ now) : Runs c l (l.modifyReporting fun _ => s.atTime now) :=
  h.tail (.report (.pass s hn) rfl)

theorem modifyLink_runs (c : AgentConfig) (id : SessionId) {f : Link → Link}
    (hf : Link.Onward f) (l : Lifecycle) : Runs c l (l.modifyLink id f) :=
  .single (.report (.link _ id hf) (List.length_modify _ _ _))

theorem settle_tasks_runs (c : AgentConfig) (k : Kpm.Service) (l : Lifecycle) :
    Runs c l (l.modifyReporting fun r => r.settle k) :=
  Kpm.Reporting.run_keeps (P := fun s => Runs c l (l.modifyReporting fun _ => s))
    (fun _ _ _ ht hs h => h.task ht hs) _ .refl

theorem settle_runs (c : AgentConfig) (l : Lifecycle) : Runs c l (l.settle c) :=
  (run_runs c _ l).trans (settle_tasks_runs c c.kpm _)

theorem wait_runs (c : AgentConfig) (n : Nat) (l : Lifecycle) : Runs c l (l.wait c n) := by
  induction n generalizing l with
  | zero => exact .refl
  | succ n ih =>
      rw [wait]
      split
      · rename_i w _ _
        have hp : Runs c l (l.modifyReporting fun r => r.atTime (max r.now w)) :=
          Runs.pass .refl (Nat.le_max_left _ w)
        exact (hp.trans (settle_runs c _)).trans (ih _)
      · exact .refl

theorem perform_runs (c : AgentConfig) (calls : List Call) (l : Lifecycle) :
    Runs c l (l.perform c calls).2 :=
  (Relation.ReflTransGen.single (.ask l calls [] l.events)).trans
    ((settle_runs c _).trans (wait_runs c _ _))

theorem advance_runs (c : AgentConfig) (millis : Nat) (l : Lifecycle) :
    Runs c l (l.advance c millis) := by
  refine .trans ?_ (settle_runs c _)
  exact Kpm.Reporting.leap_keeps (P := fun s => Runs c l (l.modifyReporting fun _ => s))
    (fun _ _ _ ht hs h => h.task ht hs) (fun _ _ hn h => h.pass hn) _ _ (Nat.le_add_right _ _) .refl

end E2Node.Lifecycle
