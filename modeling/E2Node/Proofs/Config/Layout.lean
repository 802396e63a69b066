import E2Node.Config.Load
import E2Node.Proofs.Ident.Plmn
import Mathlib.Data.List.Forall2

namespace E2Node

theorem EnbId.ofNumber_of_le {n : UInt32} (h : n ≤ EnbId.max) : EnbId.ofNumber n = .ok ⟨n⟩ :=
  if_pos h

theorem EnbId.ofNumber_of_not_le {n : UInt32} (h : ¬ n ≤ EnbId.max) :
    EnbId.ofNumber n = .error (.outOfRange "EnbId" n.toNat EnbId.max.toNat) :=
  if_neg h

theorem eq_ok_of_toOption {ε α : Type} {x : Except ε α} {a : α} (h : x.toOption = some a) :
    x = .ok a := by
  cases x with
  | error e => cases h
  | ok b =>
      cases h
      rfl

theorem exists_mapM_eq_ok {ε α β : Type} {f : α → Except ε β} {R : α → β → Prop} {as : List α}
    (h : ∀ a ∈ as, ∃ b, f a = .ok b ∧ R a b) :
    ∃ bs, as.mapM f = .ok bs ∧ List.Forall₂ R as bs := by
  induction as with
  | nil => exact ⟨[], rfl, .nil⟩
  | cons a as ih =>
      obtain ⟨⟨b, hb, hr⟩, h⟩ := List.forall_mem_cons.1 h
      obtain ⟨bs, hs, hrs⟩ := ih h
      exact ⟨b :: bs, by rw [List.mapM_cons, hb, hs]; rfl, .cons hr hrs⟩

/-- The network is identified, and each node has a number of its own and names known controllers. -/
structure Configuration.WellLaid (c : Configuration) : Prop where
  digits : ∀ d ∈ c.plmn.toList, d.isDigit = true
  length : c.plmn.toList.length = 5 ∨ c.plmn.toList.length = 6
  nodes : c.nodes ≠ []
  inRange : ∀ n ∈ c.nodes, n.gnb.toNat ≤ 0xfffff
  distinct : (c.nodes.map NodeEntry.gnb).Nodup
  connected : ∀ n ∈ c.nodes, n.controllers ≠ []
  known : ∀ n ∈ c.nodes, ∀ id ∈ n.controllers, ∃ e ∈ c.controllers, e.id = id

namespace Configuration

variable {c : Configuration} {n : NodeEntry} {ns : List NodeEntry} {earlier : List UInt32}
  {plmn : Plmn}

theorem plmnId_eq_ok_iff : c.plmnId = .ok plmn ↔ Plmn.parse c.plmn = .ok plmn := by
  rw [plmnId]
  cases Plmn.parse c.plmn <;> simp [Except.mapError]

theorem nodeFault?_eq_none_iff : c.nodeFault? earlier n = none ↔ n.gnb.toNat ≤ 0xfffff ∧
    n.gnb ∉ earlier ∧ n.controllers ≠ [] ∧
      ∀ id ∈ n.controllers, ∃ e ∈ c.controllers, e.id = id := by
  rw [nodeFault?]
  by_cases hr : n.gnb ≤ EnbId.max
  · have hr' : n.gnb.toNat ≤ 0xfffff := hr
    simp only [EnbId.ofNumber_of_le hr, hr', true_and]
    by_cases he : n.gnb ∈ earlier
    · simp [he]
    · by_cases hc : n.controllers = []
      · simp [he, hc]
      · simp [he, hc]
  · have hr' : ¬ n.gnb.toNat ≤ 0xfffff := hr
    simp [EnbId.ofNumber_of_not_le hr, hr']

theorem nodeFault?_eq_none_iff_of_earlier : c.nodeFault? earlier n = none ↔
    c.nodeFault? [] n = none ∧ n.gnb ∉ earlier := by
  simp only [nodeFault?_eq_none_iff, List.not_mem_nil, not_false_iff, true_and]
  tauto

theorem nodesFault?_eq_none_iff : c.nodesFault? earlier ns = none ↔
    (∀ n ∈ ns, c.nodeFault? [] n = none ∧ n.gnb ∉ earlier) ∧ (ns.map NodeEntry.gnb).Nodup := by
  induction ns generalizing earlier with
  | nil => simp [nodesFault?]
  | cons n ns ih =>
      have hs : (c.nodeFault? earlier n).orElse (fun _ => c.nodesFault? (n.gnb :: earlier) ns) =
          none ↔ c.nodeFault? earlier n = none ∧ c.nodesFault? (n.gnb :: earlier) ns = none := by
        cases c.nodeFault? earlier n <;> simp
      rw [nodesFault?, hs, nodeFault?_eq_none_iff_of_earlier, ih, List.forall_mem_cons,
        List.map_cons, List.nodup_cons]
      constructor
      · rintro ⟨hn, hns, hd⟩
        refine ⟨⟨hn, fun m hm => ⟨(hns m hm).1, fun he => (hns m hm).2 (.tail _ he)⟩⟩, ?_, hd⟩
        intro he
        obtain ⟨m, hm, he⟩ := List.mem_map.1 he
        exact (hns m hm).2 (he ▸ .head _)
      · rintro ⟨⟨hn, hns⟩, hne, hd⟩
        refine ⟨hn, fun m hm => ⟨(hns m hm).1, fun he => ?_⟩, hd⟩
        rcases List.mem_cons.1 he with he | he
        · exact hne (he ▸ List.mem_map_of_mem hm)
        · exact (hns m hm).2 he

theorem fault?_eq_none_iff : c.fault? = none ↔ c.WellLaid := by
  have hp : (∃ p, c.plmnId = .ok p) ↔ (c.plmn.toList.length = 5 ∨ c.plmn.toList.length = 6) ∧
      ∀ d ∈ c.plmn.toList, d.isDigit = true := by
    simp only [plmnId_eq_ok_iff, Plmn.parse_isOk_iff]
  have hf : c.fault? = none ↔ (∃ p, c.plmnId = .ok p) ∧ c.nodes ≠ [] ∧
      c.nodesFault? [] c.nodes = none := by
    rw [fault?]
    cases c.plmnId with
    | error e => simp
    | ok plmn => by_cases hn : c.nodes = [] <;> simp [hn]
  rw [hf, hp, nodesFault?_eq_none_iff]
  simp only [nodeFault?_eq_none_iff]
  constructor
  · rintro ⟨⟨hl, hd⟩, hne, hn, hu⟩
    exact ⟨hd, hl, hne, fun n hm => (hn n hm).1.1, hu, fun n hm => (hn n hm).1.2.2.1,
      fun n hm => (hn n hm).1.2.2.2⟩
  · intro h
    exact ⟨⟨h.length, h.digits⟩, h.nodes, fun n hm =>
      ⟨⟨h.inRange n hm, nofun, h.connected n hm, h.known n hm⟩, nofun⟩, h.distinct⟩

theorem checked_eq_ok_iff {d : Configuration} : d.checked = .ok c ↔ d = c ∧ c.fault? = none := by
  rw [checked]
  cases h : d.fault? with
  | none =>
      refine ⟨fun he => ?_, fun ⟨he, _⟩ => congrArg _ he⟩
      obtain rfl := Except.ok.inj he
      exact ⟨rfl, h⟩
  | some fault =>
      refine ⟨nofun, fun ⟨he, hc⟩ => ?_⟩
      rw [he, hc] at h
      exact nomatch h

theorem fault?_of_parse {text format : String} (h : parse text format = .ok c) :
    c.fault? = none := by
  rw [parse] at h
  split at h
  · cases h
  · split at h
    · cases h
    · exact (checked_eq_ok_iff.1 h).2

theorem WellLaid.exists_plmnId (h : c.WellLaid) : ∃ plmn, c.plmnId = .ok plmn := by
  simp only [plmnId_eq_ok_iff]
  exact Plmn.parse_isOk_iff.2 ⟨h.length, h.digits⟩

theorem WellLaid.cells_eq (h : c.WellLaid) (hp : c.plmnId = .ok plmn) :
    c.cells = .ok (c.nodes.flatMap fun n => n.cells.map fun x => x.cell plmn ⟨n.gnb⟩) := by
  have hn : ∀ n ∈ c.nodes, ∃ b, nodeCells plmn n = .ok b ∧
      b = n.cells.map fun x => x.cell plmn ⟨n.gnb⟩ := fun n hn =>
    ⟨_, by rw [nodeCells, EnbId.ofNumber_of_le (h.inRange n hn)], rfl⟩
  obtain ⟨bs, hb, hf⟩ := exists_mapM_eq_ok hn
  have hs : bs = c.nodes.map fun n => n.cells.map fun x => x.cell plmn ⟨n.gnb⟩ := by
    rw [← List.forall₂_eq_eq_eq, List.forall₂_map_right_iff]
    exact hf.flip
  simp only [cells, hp, hb, hs]
  rfl

theorem controller_eq_ok_iff {id : String} {e : ControllerEntry} : c.controller id = .ok e ↔
    e.id = id ∧ ∃ before after, c.controllers = before ++ e :: after ∧
      ∀ x ∈ before, x.id ≠ id := by
  have hc : c.controller id = .ok e ↔ c.controllers.find? (·.id = id) = some e := by
    rw [controller]
    cases c.controllers.find? (·.id = id) <;> simp
  simp [hc, List.find?_eq_some_iff_append]

theorem exists_controller {id : String} (h : ∃ e ∈ c.controllers, e.id = id) :
    ∃ e, c.controller id = .ok e := by
  rw [controller]
  cases hf : c.controllers.find? (·.id = id) with
  | some e => exact ⟨e, rfl⟩
  | none =>
      obtain ⟨e, he, hi⟩ := h
      exact absurd (decide_eq_true hi) (List.find?_eq_none.1 hf e he)

end Configuration

end E2Node
