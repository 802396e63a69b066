import E2Node.Proofs.Agent.Settling

namespace E2Node.Lifecycle

variable {c : AgentConfig} {l : Lifecycle}

theorem Sound.detached (h : l.Sound) (hc : l.Settled c)
    (hs : l.agent.status = .disconnected ∨ l.agent.status = .connecting) :
    l.agent.attached = none ∧ ∀ id, l.node.reporting.isClosed id = true := by
  cases h.standing with
  | idle _ _ ha he | connecting _ _ ha he => exact ⟨ha, fun id => he id nofun⟩
  | attached hh =>
      rcases hc.calls with hw | hw
      · rw [hh] at hw
        cases hw
      · simp only [callStep?, hh, reduceCtorEq] at hw
  | active _ h1 | settingUp _ h1 | givingUp _ h1 | closing _ h1 => simp [h1] at hs

theorem subscription_detached (hm : c.models.models = [Node.kpm c.kpm]) {r : SubscriptionRequest}
    (hr : r.function = Kpm.functionId) (n : Node) :
    (c.models.handler none).subscription r n = (.error ModelRegistry.noSession, n) := by
  have hg : c.models.get? r.function = some (Node.kpm c.kpm) := by
    rw [ModelRegistry.get?, hm, hr]
    rfl
  show c.models.subscription none r n = _
  rw [ModelRegistry.subscription, hg]

/-- An agent that has no session, and waits, refuses subscriptions. Tasks and entries of earlier
sessions outlast only those of their sends that have not ended. -/
theorem disconnected_cleared {p : Population} {epoch : Int} {tallies : List Tally}
    (hm : c.models.models = [Node.kpm c.kpm]) (hk : c.kpm.codec.RefusesZero)
    (hr : Runs c (begin ⟨.start p epoch, tallies⟩) l) :
    (l.Settled c → l.agent.status = .disconnected ∨ l.agent.status = .connecting →
      (∀ r : SubscriptionRequest, r.function = Kpm.functionId →
        (c.models.handler l.agent.attached).subscription r l.node =
          (.error (.unknown "no active E2 session"), l.node)) ∧
        (∀ t ∈ l.node.reporting.tasks, l.node.reporting.Sending t) ∧
        (∀ key e, l.node.reporting.subscriptions.entries.get? key = some e →
          ∃ t ∈ l.node.reporting.tasks, t.key = key ∧ e.ticker = some t.ticker) ∧
        ((∀ t ∈ l.node.reporting.tasks, ¬ l.node.reporting.Sending t) →
          l.node.reporting.Cleared)) ∧
      (l.settle c).Settled c := by
  have h := (Sound.begin rfl).runs hm hk hr
  refine ⟨fun hc hs => ?_, h.settle_settled hm hk⟩
  obtain ⟨ha, he⟩ := h.detached hc hs
  refine ⟨fun r hf => ?_, fun t => hc.tasks.sending he, fun key e hg => ?_, fun hn => ?_⟩
  · rw [ha]
    exact subscription_detached hm hf l.node
  · obtain ⟨-, t, ht, hi, hkey, -⟩ := h.coherent.driven key e hg
    exact ⟨t, ht, hkey, hi⟩
  · refine h.coherent.cleared (List.eq_nil_iff_forall_not_mem.2 fun t ht => ?_)
    exact hn t ht (hc.tasks.sending he ht)

/-- A subscription is admitted while the session is set up, and then the setup fails. -/
theorem failed_setup_cleared :
    let k : Kpm.Service := ⟨⟨⟨1⟩, ⟨⟨1, 3, 8⟩, ⟨4, 2, 6⟩, 3⟩⟩, .standard, []⟩
    let c : AgentConfig :=
      ⟨k.node, "127.0.0.1:36421", ⟨[Node.kpm k], List.pairwise_singleton _ _⟩, k⟩
    let r : SubscriptionRequest :=
      ⟨⟨1, 2⟩, Kpm.functionId, [100, 0, 0, 0], [⟨⟨1⟩, .report, none⟩]⟩
    let peer : Peer := { Peer.plain with
      setup := some (.ok (.failure ⟨.misc .unspecified⟩))
      earlyRequest := some (.subscriptionRequest r) }
    let l₀ : Lifecycle := { begin ⟨.start .empty 0, []⟩ with peer := peer, waiting := [.start] }
    let l := l₀.settle c
    c.models.models = [Node.kpm c.kpm] ∧ c.kpm.codec.RefusesZero ∧
      (l₀.run c 5).agent.status = .disconnected ∧
      (l₀.run c 5).node.reporting.subscriptions.size = 1 ∧
      Runs c (begin ⟨.start .empty 0, []⟩) l ∧ l.Settled c ∧ l.agent.status = .disconnected ∧
      (c.models.handler l.agent.attached).subscription r l.node =
        (.error (.unknown "no active E2 session"), l.node) ∧
      l.node.reporting.Cleared := by
  intro k c r peer l₀ l
  have hz : c.kpm.codec.RefusesZero := Kpm.ElementCodec.standard_refusesZero
  have h₀ : Runs c (begin ⟨.start .empty 0, []⟩) l₀ :=
    (Relation.ReflTransGen.single (.expect _ peer)).tail (.ask _ [.start] [] [])
  have hr : Runs c (begin ⟨.start .empty 0, []⟩) l := h₀.trans (settle_runs c l₀)
  have hs : l.agent.status = .disconnected := by decide +kernel
  have hn : l.node.reporting.tasks.length = 0 := by decide +kernel
  have hc : l.Settled c := (disconnected_cleared rfl hz h₀).2
  obtain ⟨hf, -, -, hd⟩ := (disconnected_cleared rfl hz hr).1 hc (.inl hs)
  refine ⟨rfl, hz, by decide, by decide, hr, hc, hs, hf r rfl, hd fun t ht => ?_⟩
  rw [List.length_eq_zero_iff.1 hn] at ht
  cases ht

/-- The agent's session ends while a report is being sent. -/
theorem sending_not_cleared : ¬ ∀ (c : AgentConfig) (p : Population) (epoch : Int)
    (tallies : List Tally) (l : Lifecycle), c.models.models = [Node.kpm c.kpm] →
      c.kpm.codec = .standard → Runs c (begin ⟨.start p epoch, tallies⟩) l →
      (l.agent.status = .disconnected ∨ l.agent.status = .connecting) →
      l.Settled c → l.node.reporting.Cleared := by
  intro h
  let k : Kpm.Service := ⟨⟨⟨1⟩, ⟨⟨1, 3, 8⟩, ⟨4, 2, 6⟩, 3⟩⟩, .standard, []⟩
  let c : AgentConfig :=
    ⟨k.node, "127.0.0.1:36421", ⟨[Node.kpm k], List.pairwise_singleton _ _⟩, k⟩
  let r : SubscriptionRequest :=
    ⟨⟨1, 2⟩, Kpm.functionId, [100, 0, 0, 0], [⟨⟨1⟩, .report, none⟩]⟩
  let l₀ : Lifecycle :=
    { begin ⟨.start .empty 0, []⟩ with peer := { Peer.plain with link := .fresh false 1000 } }
  let l₁ := (l₀.perform c [.start]).2
  let l₂ := (l₁.serve c (.subscriptionRequest r)).2.settle c
  let l₃ := (l₂.advance c 100).modifyLink ⟨0⟩ Link.close
  have h₁ : Runs c (begin ⟨.start .empty 0, []⟩) l₁ :=
    .trans (.single (.expect _ _)) (perform_runs c [.start] l₀)
  have h₂ : Runs c (begin ⟨.start .empty 0, []⟩) l₂ :=
    h₁.trans ((serve_runs c _ l₁).trans (settle_runs c _))
  have h₃ : Runs c (begin ⟨.start .empty 0, []⟩) l₃ :=
    h₂.trans ((advance_runs c 100 l₂).trans (modifyLink_runs c ⟨0⟩ Link.close_onward _))
  have hc : l₃.Sound := (Sound.begin rfl).runs rfl Kpm.ElementCodec.standard_refusesZero h₃
  have hs : (l₃.settle c).agent.status = .disconnected := by decide +kernel
  have hn : (l₃.settle c).node.reporting.tasks ≠ [] := by decide +kernel
  have hd := h c .empty 0 [] (l₃.settle c) rfl rfl (h₃.trans (settle_runs c l₃)) (.inl hs)
    (hc.settle_settled rfl Kpm.ElementCodec.standard_refusesZero)
  exact hn hd.1

end E2Node.Lifecycle
