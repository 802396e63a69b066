import E2Node.Agent.Lifecycle
import E2Node.Proofs.Kpm.Ending

namespace E2Node.Lifecycle

variable {c : AgentConfig} {l l' : Lifecycle}

/-- A request may be dispatched on one moment and reach its model on a later one. -/
inductive Move (c : AgentConfig) : Lifecycle → Lifecycle → Prop
  | ask (l : Lifecycle) (calls) (results) (events) :
      Move c l { l with waiting := calls, results := results, events := events }
  | expect (l : Lifecycle) (p : Peer) : Move c l { l with peer := p }
  | call {l l' : Lifecycle} (h : callStep? c l = some l') : Move c l l'
  | monitor {l : Lifecycle} {m : Monitor} (hh : l.holder = none) (hm : m ∈ l.monitors)
      (hc : l.node.reporting.isClosed m.session = true) :
      Move c l { l with agent := l.agent.sessionEnded m, monitors := l.monitors.erase m }
  | serve (l : Lifecycle) (p : Pdu) : Move c l (l.serve c p).2
  | report {l : Lifecycle} {s : Kpm.Reporting} (h : l.node.reporting.Move s)
      (hl : s.links.length = l.node.reporting.links.length) :
      Move c l (l.modifyReporting fun _ => s)

abbrev Runs (c : AgentConfig) : Lifecycle → Lifecycle → Prop := Relation.ReflTransGen (Move c)

def EndedBut (l : Lifecycle) (o : Option SessionId) : Prop :=
  ∀ id, o ≠ some id → l.node.reporting.isClosed id = true

/-- How far the calls have come, and the session that may be open. -/
inductive Standing (l : Lifecycle) : Prop
  | idle (hh : l.holder = none) (hs : l.agent.status = .disconnected)
      (ha : l.agent.attached = none) (he : l.EndedBut none)
  | active {s} (hh : l.holder = none) (hs : l.agent.status = .active)
      (ha : l.agent.attached = some s) (he : l.EndedBut (some s))
  | connecting (hh : l.holder = some .connecting) (hs : l.agent.status = .connecting)
      (ha : l.agent.attached = none) (he : l.EndedBut none)
  | attached {s} (hh : l.holder = some (.attached s)) (hs : l.agent.status = .connecting)
      (ha : l.agent.attached = some s) (he : l.EndedBut (some s))
  | settingUp {s n} (hh : l.holder = some (.settingUp s n)) (hs : l.agent.status = .setupPending)
      (ha : l.agent.attached = some s) (he : l.EndedBut (some s))
  | givingUp {s e} (hh : l.holder = some (.givingUp s e)) (hs : l.agent.status = .setupPending)
      (ha : l.agent.attached = none) (he : l.EndedBut (some s))
  | closing {s} (hh : l.holder = some (.closing s)) (hs : l.agent.status = .active)
      (ha : l.agent.attached = none) (he : l.EndedBut (some s))

def Watches (l : Lifecycle) (m : Monitor) : Prop :=
  m.lifecycle < l.agent.lifecycle ∨ m.lifecycle = l.agent.lifecycle ∧ l.holder = none ∧
    (l.agent.attached = some m.session ∨ l.agent.status = .disconnected)

theorem Watches.lt {m : Monitor} (h : l.Watches m) (hh : l.holder ≠ none) :
    m.lifecycle < l.agent.lifecycle := h.resolve_right fun hw => hh hw.2.1

theorem Watches.le {m : Monitor} (h : l.Watches m) : m.lifecycle ≤ l.agent.lifecycle := by
  rcases h with hlt | ⟨he, -⟩
  · exact Nat.le_of_lt hlt
  · exact Nat.le_of_eq he

structure Sound (l : Lifecycle) : Prop where
  coherent : l.node.reporting.Coherent
  opened : l.node.reporting.links.length = l.peers.length
  standing : l.Standing
  watched : ∀ m ∈ l.monitors, l.Watches m

theorem EndedBut.mono {o : Option SessionId} (h : l.EndedBut o)
    (hc : ∀ id, l.node.reporting.isClosed id = true → l'.node.reporting.isClosed id = true) :
    l'.EndedBut o := fun id hid => hc id (h id hid)

theorem Standing.mono (h : l.Standing) (hh : l'.holder = l.holder) (ha : l'.agent = l.agent)
    (hc : ∀ id, l.node.reporting.isClosed id = true → l'.node.reporting.isClosed id = true) :
    l'.Standing := by
  cases h with
  | idle h1 hs h2 he => exact .idle (hh.trans h1) (ha ▸ hs) (ha ▸ h2) (he.mono hc)
  | active h1 hs h2 he => exact .active (hh.trans h1) (ha ▸ hs) (ha ▸ h2) (he.mono hc)
  | connecting h1 hs h2 he => exact .connecting (hh.trans h1) (ha ▸ hs) (ha ▸ h2) (he.mono hc)
  | attached h1 hs h2 he => exact .attached (hh.trans h1) (ha ▸ hs) (ha ▸ h2) (he.mono hc)
  | settingUp h1 hs h2 he => exact .settingUp (hh.trans h1) (ha ▸ hs) (ha ▸ h2) (he.mono hc)
  | givingUp h1 hs h2 he => exact .givingUp (hh.trans h1) (ha ▸ hs) (ha ▸ h2) (he.mono hc)
  | closing h1 hs h2 he => exact .closing (hh.trans h1) (ha ▸ hs) (ha ▸ h2) (he.mono hc)

theorem EndedBut.close {s : SessionId} (h : l.EndedBut (some s)) : (l.close s).2.EndedBut none := by
  intro id _
  by_cases hid : id = s
  · subst id
    exact Kpm.Reporting.isClosed_close _ s
  · exact Kpm.Reporting.isClosed_modifyLink s Link.close_onward
      (h id fun he => hid (Option.some.inj he).symm)

theorem eq_kpm (hm : c.models.models = [Node.kpm c.kpm]) {id : RanFunctionId}
    {m : ServiceModel Node} (hg : c.models.get? id = some m) : m = Node.kpm c.kpm := by
  have := List.mem_of_find?_eq_some hg
  rwa [hm, List.mem_singleton] at this

theorem subscription_reporting (hm : c.models.models = [Node.kpm c.kpm])
    (hk : c.kpm.codec.RefusesZero) (attached : Option SessionId) (r : SubscriptionRequest)
    (n : Node) : ∃ s, (c.models.subscription attached r n).2 = { n with reporting := s } ∧
      s.links = n.reporting.links ∧ Relation.ReflGen Kpm.Reporting.Move n.reporting s := by
  rw [ModelRegistry.subscription]
  cases hg : c.models.get? r.function with
  | none => exact ⟨n.reporting, rfl, rfl, .refl⟩
  | some m =>
      obtain rfl := eq_kpm hm hg
      cases attached with
      | none => exact ⟨n.reporting, rfl, rfl, .refl⟩
      | some id =>
          exact ⟨_, rfl, Kpm.Reporting.subscription_links c.kpm id r n.reporting,
            .single (.subscribe _ c.kpm hk id r)⟩

theorem delete_reporting (hm : c.models.models = [Node.kpm c.kpm])
    (r : SubscriptionDeleteRequest) (n : Node) :
    ∃ s, (c.models.delete r n).2 = { n with reporting := s } ∧
      s.links = n.reporting.links ∧ Relation.ReflGen Kpm.Reporting.Move n.reporting s := by
  rw [ModelRegistry.delete]
  cases hg : c.models.get? r.function with
  | none => exact ⟨n.reporting, rfl, rfl, .refl⟩
  | some m =>
      obtain rfl := eq_kpm hm hg
      exact ⟨_, rfl, Kpm.Reporting.delete_links r n.reporting, .single (.delete _ r)⟩

theorem control_node (hm : c.models.models = [Node.kpm c.kpm]) (r : ControlRequest) (n : Node) :
    (c.models.control r n).2 = n := by
  rw [ModelRegistry.control]
  cases hg : c.models.get? r.function with
  | none => rfl
  | some m =>
      obtain rfl := eq_kpm hm hg
      rfl

theorem serve_reporting (hm : c.models.models = [Node.kpm c.kpm])
    (hk : c.kpm.codec.RefusesZero) (p : Pdu) (l : Lifecycle) :
    ∃ s, (l.serve c p).2 = l.modifyReporting (fun _ => s) ∧
      s.links = l.node.reporting.links ∧
        Relation.ReflGen Kpm.Reporting.Move l.node.reporting s := by
  have same : ∃ s, l = l.modifyReporting (fun _ => s) ∧ s.links = l.node.reporting.links ∧
      Relation.ReflGen Kpm.Reporting.Move l.node.reporting s :=
    ⟨l.node.reporting, rfl, rfl, .refl⟩
  cases p with
  | subscriptionRequest r =>
      obtain ⟨s, he, hs⟩ := subscription_reporting hm hk l.agent.attached r l.node
      exact ⟨s, congrArg (fun n => { l with node := n }) he, hs⟩
  | subscriptionDeleteRequest r =>
      obtain ⟨s, he, hs⟩ := delete_reporting hm r l.node
      exact ⟨s, congrArg (fun n => { l with node := n }) he, hs⟩
  | controlRequest r =>
      have he : (l.serve c (.controlRequest r)).2 = l :=
        congrArg (fun n => { l with node := n }) (control_node hm r l.node)
      rwa [he]
  | _ => exact same

namespace Sound

theorem begin {p : Population} {epoch : Int} {node : Node}
    (hn : node.reporting = .start p epoch) : (Lifecycle.begin node).Sound where
  coherent := hn ▸ .start p epoch
  opened := congrArg (fun r => r.links.length) hn
  standing := .idle rfl rfl rfl fun id _ => by
    show node.reporting.isClosed id = true
    rw [hn]
    rfl
  watched _ hm := nomatch hm

theorem report (h : l.Sound) {s : Kpm.Reporting} (hm : l.node.reporting.Move s)
    (hl : s.links.length = l.node.reporting.links.length) :
    (l.modifyReporting fun _ => s).Sound where
  coherent := h.coherent.move hm
  opened := hl.trans h.opened
  standing := h.standing.mono rfl rfl fun _ hc => hm.isClosed hl hc
  watched := h.watched

theorem log (h : l.Sound) (e : AgentEvent) : (l.log e).Sound :=
  ⟨h.coherent, h.opened, h.standing.mono rfl rfl fun _ => id, h.watched⟩

theorem serve (h : l.Sound) (hm : c.models.models = [Node.kpm c.kpm])
    (hk : c.kpm.codec.RefusesZero) (p : Pdu) : (l.serve c p).2.Sound := by
  obtain ⟨s, he, hl, hs⟩ := serve_reporting hm hk p l
  rw [he]
  cases hs with
  | refl => exact h
  | single hs => exact h.report hs (congrArg List.length hl)

theorem acquire (h : l.Sound) (hh : l.holder = none) (call : Call) : (acquire c l call).Sound := by
  have later {m : Monitor} (hm : m ∈ l.monitors) : m.lifecycle < l.agent.lifecycle + 1 :=
    Nat.lt_succ_of_le (h.watched m hm).le
  cases h.standing with
  | idle _ hs ha he =>
      cases call with
      | start =>
          simp only [Lifecycle.acquire, Agent.beginStart, hs, if_true]
          exact ⟨h.coherent, h.opened, .connecting rfl rfl ha he, fun m hm => .inl (later hm)⟩
      | stop =>
          simp only [Lifecycle.acquire, Agent.beginStop, ha]
          exact ⟨h.coherent, h.opened, .idle rfl rfl rfl he, fun m hm => .inl (later hm)⟩
  | active _ hs ha he =>
      cases call with
      | start =>
          simp only [Lifecycle.acquire, Agent.beginStart, hs, reduceCtorEq, if_false]
          exact ⟨h.coherent, h.opened, .active rfl hs ha he, fun m hm =>
            (h.watched m hm).imp_right fun ⟨he, _, ho⟩ => ⟨he, rfl, ho⟩⟩
      | stop =>
          simp only [Lifecycle.acquire, Agent.beginStop, ha]
          exact ⟨h.coherent, h.opened, .closing rfl hs rfl he, fun m hm => .inl (later hm)⟩
  | connecting h1 | attached h1 | settingUp h1 | givingUp h1 | closing h1 =>
      rw [hh] at h1
      cases h1

theorem connect (h : l.Sound) (hh : l.holder = some .connecting) : (connect c l).Sound := by
  have late {m : Monitor} (hm : m ∈ l.monitors) : m.lifecycle < l.agent.lifecycle :=
    (h.watched m hm).lt (by simp [hh])
  cases h.standing with
  | connecting _ hs ha he =>
      rw [Lifecycle.connect]
      split
      · exact ⟨h.coherent, h.opened, .idle rfl rfl ha he, fun m hm => .inl (late hm)⟩
      · refine ⟨h.coherent.move (.connect _ l.peer.link), ?_, .attached rfl hs rfl ?_,
          fun m hm => .inl (late hm)⟩
        · show (l.node.reporting.links ++ [l.peer.link]).length = (l.peers ++ [l.peer]).length
          rw [List.length_append, List.length_append, h.opened]
          rfl
        · intro id hid
          refine Kpm.Reporting.isClosed_connect l.peer.link (fun hv => hid ?_) (he id nofun)
          rw [h.opened] at hv
          exact congrArg (fun v => some (SessionId.mk v)) hv.symm
  | idle h1 | active h1 | attached h1 | settingUp h1 | givingUp h1 | closing h1 =>
      rw [hh] at h1
      cases h1

theorem beginSetup (h : l.Sound) (hm : c.models.models = [Node.kpm c.kpm])
    (hk : c.kpm.codec.RefusesZero) {s : SessionId} (hh : l.holder = some (.attached s)) :
    (beginSetup c l s).Sound := by
  have late {m : Monitor} (hm : m ∈ l.monitors) : m.lifecycle < l.agent.lifecycle :=
    (h.watched m hm).lt (by simp [hh])
  cases h.standing with
  | attached h1 hs ha he =>
      rw [hh] at h1
      cases h1
      have hw : Sound { l with
          agent := l.agent.awaitSetup
          holder := some (.settingUp s (l.now + (l.peerOf s).setupDelay)) } :=
        ⟨h.coherent, h.opened, .settingUp rfl rfl ha he, fun m hm => .inl (late hm)⟩
      rw [Lifecycle.beginSetup]
      split
      · exact hw.log _
      · exact ((hw.log _).serve hm hk _).log _
  | idle h1 | active h1 | connecting h1 | settingUp h1 | givingUp h1 | closing h1 =>
      rw [hh] at h1
      cases h1

theorem setUp (h : l.Sound) {s : SessionId} {n : Nat} (hh : l.holder = some (.settingUp s n)) :
    (setUp c l s).Sound := by
  have late {m : Monitor} (hm : m ∈ l.monitors) : m.lifecycle < l.agent.lifecycle :=
    (h.watched m hm).lt (by simp [hh])
  cases h.standing with
  | settingUp h1 hs ha he =>
      rw [hh] at h1
      cases h1
      rw [Lifecycle.setUp]
      split
      · refine ⟨h.coherent, h.opened, .active rfl rfl ha he, fun m hm => ?_⟩
        rcases List.mem_append.1 hm with hm | hm
        · exact .inl (late hm)
        · rw [List.mem_singleton.1 hm]
          exact .inr ⟨rfl, rfl, .inl ha⟩
      · exact ⟨h.coherent, h.opened, .givingUp rfl hs rfl he, fun m hm => .inl (late hm)⟩
  | idle h1 | active h1 | connecting h1 | attached h1 | givingUp h1 | closing h1 =>
      rw [hh] at h1
      cases h1

theorem close (h : l.Sound) {s : SessionId} (hh : l.holder ≠ none)
    (ha : l.agent.attached = none) (he : l.EndedBut (some s)) (r : Except RequestError Unit) :
    ((l.close s).2.finish r).Sound where
  coherent := h.coherent.modifyLink s Link.close_onward
  opened := (List.length_modify _ _ _).trans h.opened
  standing := .idle rfl rfl ha he.close
  watched m hm := .inl ((h.watched m hm).lt hh)

theorem call (h : l.Sound) (hm : c.models.models = [Node.kpm c.kpm])
    (hk : c.kpm.codec.RefusesZero) (hs : callStep? c l = some l') : l'.Sound := by
  rw [callStep?] at hs
  split at hs
  · rename_i hh
    split at hs
    · cases hs
    · rename_i call rest _
      cases hs
      have hw : Sound { l with waiting := rest } :=
        ⟨h.coherent, h.opened, h.standing.mono rfl rfl fun _ => id, h.watched⟩
      exact hw.acquire hh call
  · rename_i hh
    cases hs
    exact h.connect hh
  · rename_i s hh
    cases hs
    exact h.beginSetup hm hk hh
  · rename_i s n hh
    split at hs
    · cases hs
      exact h.setUp hh
    · cases hs
  · rename_i s e hh
    cases hs
    cases h.standing with
    | givingUp h1 _ ha he =>
        rw [hh] at h1
        cases h1
        exact h.close (by simp [hh]) ha he _
    | idle h1 | active h1 | connecting h1 | attached h1 | settingUp h1 | closing h1 =>
        rw [hh] at h1
        cases h1
  · rename_i s hh
    cases hs
    cases h.standing with
    | closing h1 _ ha he =>
        rw [hh] at h1
        cases h1
        exact h.close (by simp [hh]) ha he _
    | idle h1 | active h1 | connecting h1 | attached h1 | settingUp h1 | givingUp h1 =>
        rw [hh] at h1
        cases h1

theorem monitor (h : l.Sound) (hh : l.holder = none) {m : Monitor} (hm : m ∈ l.monitors)
    (hc : l.node.reporting.isClosed m.session = true) :
    Sound { l with agent := l.agent.sessionEnded m, monitors := l.monitors.erase m } := by
  have rest {x : Monitor} (hx : x ∈ l.monitors.erase m) : l.Watches x :=
    h.watched x (List.mem_of_mem_erase hx)
  by_cases hl : m.lifecycle = l.agent.lifecycle
  · have he : l.EndedBut none := by
      cases h.standing with
      | idle _ _ _ he => exact he
      | active _ hs ha he =>
          rcases h.watched m hm with hlt | ⟨-, -, ho | ho⟩
          · omega
          · intro id _
            by_cases hid : id = m.session
            · rwa [hid]
            · refine he id fun hi => hid ?_
              exact Option.some.inj (hi.symm.trans (ha.symm.trans ho))
          · rw [hs] at ho
            cases ho
      | connecting h1 | attached h1 | settingUp h1 | givingUp h1 | closing h1 =>
          rw [hh] at h1
          cases h1
    simp only [Agent.sessionEnded, hl, if_true]
    exact ⟨h.coherent, h.opened, .idle hh rfl rfl he, fun x hx =>
      (rest hx).imp_right fun ⟨hx, _⟩ => ⟨hx, hh, .inr rfl⟩⟩
  · simp only [Agent.sessionEnded, hl, if_false]
    exact ⟨h.coherent, h.opened, h.standing.mono rfl rfl fun _ => id, fun x hx => rest hx⟩

theorem move (h : l.Sound) (hm : c.models.models = [Node.kpm c.kpm])
    (hk : c.kpm.codec.RefusesZero) (hs : Move c l l') : l'.Sound := by
  cases hs with
  | ask | expect =>
      exact ⟨h.coherent, h.opened, h.standing.mono rfl rfl fun _ => id, h.watched⟩
  | call hs => exact h.call hm hk hs
  | monitor hh hi hc => exact h.monitor hh hi hc
  | serve p => exact h.serve hm hk p
  | report hs hl => exact h.report hs hl

theorem runs (h : l.Sound) (hm : c.models.models = [Node.kpm c.kpm])
    (hk : c.kpm.codec.RefusesZero) (hr : Runs c l l') : l'.Sound := by
  induction hr with
  | refl => exact h
  | tail _ hs ih => exact ih.move hm hk hs

end Sound

end E2Node.Lifecycle
