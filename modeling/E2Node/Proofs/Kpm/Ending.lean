import E2Node.Proofs.Kpm.Correspondence

namespace E2Node.Kpm.Reporting

variable {k : Service} {s s' : Reporting} {t : ReportTask} {id : SessionId}

theorem isClosed_modifyLink (id' : SessionId) {f : Link → Link} (hf : Link.Onward f)
    (h : s.isClosed id = true) : (s.modifyLink id' f).isClosed id = true := by
  rw [isClosed, link?_modifyLink]
  rw [isClosed] at h
  cases hl : s.link? id with
  | none => rfl
  | some l =>
      rw [hl] at h
      simp only [Option.map_some]
      split
      · exact hf.closed l h
      · exact h

theorem isClosed_close (s : Reporting) (id : SessionId) :
    (s.modifyLink id Link.close).isClosed id = true := by
  rw [isClosed, link?_modifyLink]
  cases s.link? id with
  | none => rfl
  | some l => simp [Link.close]

theorem isClosed_record (id' : SessionId) (time : Nat) (i : Indication) :
    (s.modifyLink id' (Link.record · time i)).isClosed id = s.isClosed id := by
  rw [isClosed, isClosed, link?_modifyLink]
  cases s.link? id with
  | none => rfl
  | some l =>
      simp only [Option.map_some]
      split
      · rfl
      · rfl

theorem TaskStep.isClosed_eq (hs : TaskStep k s t s') : s'.isClosed id = s.isClosed id := by
  cases hs with
  | arrived => exact isClosed_record ..
  | _ => rfl

theorem settle_isClosed (k : Service) (s : Reporting) (id : SessionId) :
    (s.settle k).isClosed id = s.isClosed id :=
  run_keeps (fun _ _ _ _ hs h => (taskStep_of_step? hs).isClosed_eq.trans h) _ rfl

theorem TaskStep.length_links (hs : TaskStep k s t s') : s'.links.length = s.links.length := by
  cases hs with
  | arrived => exact List.length_modify _ _ _
  | _ => rfl

theorem subscription_links (k : Service) (id : SessionId) (r : SubscriptionRequest)
    (s : Reporting) : (k.subscription id r s).2.links = s.links := by
  rcases subscription_cases k id r s with h | ⟨_, _, _, _, _, h⟩ <;> rw [h]

theorem delete_links (r : SubscriptionDeleteRequest) (s : Reporting) :
    (Service.delete r s).2.links = s.links := by
  rcases delete_cases r s with ⟨-, h⟩ | ⟨_, _, h⟩ <;> rw [h]

theorem isClosed_of_links (hl : s'.links = s.links) : s'.isClosed id = s.isClosed id := by
  rw [isClosed, isClosed, link?, link?, hl]

theorem Move.isClosed (hm : Move s s') (hl : s'.links.length = s.links.length)
    (h : s.isClosed id = true) : s'.isClosed id = true := by
  cases hm with
  | task k ht hs => exact (taskStep_of_step? hs).isClosed_eq.trans h
  | cut ht hs =>
      obtain ⟨-, rfl⟩ := cut?_eq_some_iff.1 hs
      exact h
  | subscribe k hk id r => rwa [isClosed_of_links (subscription_links k id r s)]
  | delete r => rwa [isClosed_of_links (delete_links r s)]
  | connect l => simp at hl
  | link id' hf => exact isClosed_modifyLink id' hf h
  | populate p => exact h
  | pass hn => exact h

theorem isClosed_connect (l : Link) (hid : id.val ≠ s.links.length) (h : s.isClosed id = true) :
    Reporting.isClosed { s with links := s.links ++ [l] } id = true := by
  rw [Reporting.isClosed, link?] at h ⊢
  by_cases hlt : id.val < s.links.length
  · rwa [List.getElem?_append_left hlt]
  · rw [List.getElem?_eq_none]
    rw [List.length_append, List.length_singleton]
    omega

def Cleared (s : Reporting) : Prop := s.tasks = [] ∧ s.subscriptions.isEmpty = true

/-- A send of the task is under way. -/
def Sending (s : Reporting) (t : ReportTask) : Prop :=
  ∃ r i done, t.phase = .inFlight r i done ∧ s.now < done

theorem Coherent.cleared (h : s.Coherent) (ht : s.tasks = []) : s.Cleared := by
  refine ⟨ht, ?_⟩
  rw [Subscriptions.isEmpty_iff]
  intro key
  cases he : s.subscriptions.entries.get? key with
  | none => rfl
  | some e =>
      obtain ⟨-, t, hm, -⟩ := h.driven key e he
      rw [ht] at hm
      cases hm

theorem Settled.sending (hs : s.Settled k) (he : ∀ id, s.isClosed id = true) (ht : t ∈ s.tasks) :
    s.Sending t := by
  rcases step?_eq_none_iff.1 (hs t ht) with ⟨r, -, -, hc, -⟩ | hp
  · rw [he] at hc
    cases hc
  · exact hp

end E2Node.Kpm.Reporting
