import E2Node.Config.Load
import E2Node.Launch.Agents
import E2Node.Proofs.Config.Layout

namespace E2Node

namespace Launch

variable {c : Configuration} {plmn : Plmn} {p : NodeEntry × String}

theorem exists_agentTowards (node : NodeIdentity) (address : String) :
    ∃ a, agentTowards node address = .ok a ∧ a.node = node ∧ a.address = address :=
  ⟨_, rfl, rfl, rfl⟩

theorem mem_pairs : p ∈ pairs c ↔ p.1 ∈ c.nodes ∧ p.2 ∈ p.1.controllers := by
  simp only [pairs, List.mem_flatMap, List.mem_map]
  constructor
  · rintro ⟨n, hn, id, hi, rfl⟩
    exact ⟨hn, hi⟩
  · rintro ⟨hn, hi⟩
    exact ⟨p.1, hn, p.2, hi, rfl⟩

theorem pairs_ne_nil (h : c.WellLaid) : pairs c ≠ [] := by
  obtain ⟨n, hn⟩ := List.exists_mem_of_ne_nil _ h.nodes
  obtain ⟨id, hi⟩ := List.exists_mem_of_ne_nil _ (h.connected n hn)
  exact List.ne_nil_of_mem (a := (n, id)) (mem_pairs.2 ⟨hn, hi⟩)

/-- The agent of a node towards the first controller with an identifier. -/
structure Serves (c : Configuration) (plmn : Plmn) (p : NodeEntry × String) (a : AgentConfig) :
    Prop where
  node : a.node = ⟨p.1.id, plmn⟩
  address : ∃ e, c.controller p.2 = .ok e ∧ a.address = e.endpoint

theorem exists_agentFor (h : c.WellLaid) (hp : p ∈ pairs c) :
    ∃ a, agentFor c plmn p = .ok a ∧ Serves c plmn p a := by
  obtain ⟨hn, hi⟩ := mem_pairs.1 hp
  obtain ⟨e, he⟩ := Configuration.exists_controller (h.known _ hn _ hi)
  obtain ⟨a, ha, hna, haa⟩ := exists_agentTowards ⟨p.1.id, plmn⟩ e.endpoint
  exact ⟨a, by simp only [agentFor, he, ha]; rfl, hna, e, he, haa⟩

theorem create_eq (h : c.WellLaid) (hp : c.plmnId = .ok plmn) {cells : List Cell}
    (hc : c.cells = .ok cells) :
    ∃ agents, List.Forall₂ (Serves c plmn) (pairs c) agents ∧ ∀ count ds epoch,
      create c count ds epoch = (populate (.ofList cells) count ds).map fun q =>
        ⟨q, agents.map fun a => (a, .begin ⟨.start q epoch, []⟩)⟩ := by
  have hf : ∀ p ∈ pairs c, ∃ a, agentFor c plmn p = .ok a ∧ Serves c plmn p a :=
    fun _ => exists_agentFor h
  obtain ⟨agents, ha, hs⟩ := exists_mapM_eq_ok hf
  refine ⟨agents, hs, fun count ds epoch => ?_⟩
  simp only [create, hp, hc, Except.mapError, bind, Except.bind, pure, Except.pure]
  cases populate (.ofList cells) count ds with
  | error e => rfl
  | ok q =>
      simp only [ha]
      rfl

end Launch

/-- The checks accept exactly the configurations that are well laid, and whatever is read passed
them. Then nothing that looks things up in the layout fails. -/
theorem Configuration.layout_suffices (c : Configuration) :
    (c.fault? = none ↔ c.WellLaid) ∧ ∀ text format, parse text format = .ok c →
      ∃ plmn agents, c.plmnId = .ok plmn ∧
        c.cells = .ok (c.nodes.flatMap fun n => n.cells.map fun x => x.cell plmn ⟨n.gnb⟩) ∧
        (∀ n ∈ c.nodes, ∀ id ∈ n.controllers, ∃ e before after, c.controller id = .ok e ∧
          e.id = id ∧ c.controllers = before ++ e :: after ∧ ∀ x ∈ before, x.id ≠ id) ∧
        agents ≠ [] ∧ List.Forall₂ (Launch.Serves c plmn) (Launch.pairs c) agents ∧
        ∀ cells, c.cells = .ok cells → ∀ count ds epoch, Launch.create c count ds epoch =
          (Launch.populate (.ofList cells) count ds).map fun p =>
            ⟨p, agents.map fun a => (a, .begin ⟨.start p epoch, []⟩)⟩ := by
  refine ⟨fault?_eq_none_iff, fun text format hr => ?_⟩
  have h := fault?_eq_none_iff.1 (fault?_of_parse hr)
  obtain ⟨plmn, hp⟩ := h.exists_plmnId
  have hc := h.cells_eq hp
  obtain ⟨agents, hs, hl⟩ := Launch.create_eq h hp hc
  refine ⟨plmn, agents, hp, hc, fun n hn id hi => ?_, ?_, hs, fun cells hcs => ?_⟩
  · obtain ⟨e, he⟩ := exists_controller (h.known n hn id hi)
    obtain ⟨hid, before, after, hb⟩ := controller_eq_ok_iff.1 he
    exact ⟨e, before, after, he, hid, hb⟩
  · rintro rfl
    exact Launch.pairs_ne_nil h (List.forall₂_nil_right_iff.1 hs)
  · rw [hc] at hcs
    cases hcs
    exact hl

theorem Configuration.shared_identifier_suffices :
    let text := "[\"00101\",1,[[\"r\",\"a\"],[\"r\",\"b\"]],[[7,[\"r\"],[]]]]"
    let c : Configuration := ⟨"00101", 1, [⟨"r", "a", 36421⟩, ⟨"r", "b", 36421⟩], [⟨7, ["r"], []⟩],
      "info"⟩
    parse text "json" = .ok c ∧ ∃ plmn, c.plmnId = .ok plmn ∧ c.cells = .ok [] ∧
      c.controller "r" = .ok ⟨"r", "a", 36421⟩ := by
  intro text c
  have ho : (parse text "json").toOption = some c := by decide +kernel
  have hr : parse text "json" = .ok c := by
    cases hp : parse text "json" with
    | error e =>
        rw [hp] at ho
        cases ho
    | ok d =>
        rw [hp] at ho
        cases ho
        rfl
  obtain ⟨plmn, agents, hp, hc, -⟩ := (layout_suffices c).2 text "json" hr
  exact ⟨hr, plmn, hp, hc, rfl⟩

end E2Node
