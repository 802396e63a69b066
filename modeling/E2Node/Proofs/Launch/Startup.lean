import E2Node.Launch.Program
import E2Node.Proofs.Config.Inventory
import E2Node.Proofs.Launch.Assembly
import Mathlib.Data.Nat.ModEq

namespace E2Node

theorem Draw.eq_of_imsi_eq {i j : Nat} (hi : i < Population.capacity) (hj : j < Population.capacity)
    (h : (numbered i).imsi = (numbered j).imsi) : i = j := by
  have hv := congrArg (fun x => x.val.toNat) h
  simp only [numbered, Imsi.toNat_ofPlace] at hv
  have hm : Nat.ModEq Population.capacity (4567891 + 7654321 * i) (4567891 + 7654321 * j) :=
    Nat.add_left_cancel hv
  have hs : Nat.ModEq Population.capacity i j :=
    Nat.ModEq.cancel_left_of_coprime (by decide) (Nat.ModEq.add_left_cancel' _ hm)
  exact hs.eq_of_lt_of_lt hi hj

namespace CellRegistry

variable {r : CellRegistry}

theorem length_toList (r : CellRegistry) : r.toList.length = r.size := by
  rw [toList, List.length_mergeSort, Table.values, List.length_map]
  rfl

theorem exists_pick (h : r.size ≠ 0) (choice : Nat) : ∃ x, r.pick choice = .ok x := by
  have hl : choice % r.size < r.toList.length := by
    rw [length_toList]
    exact Nat.mod_lt _ (Nat.pos_of_ne_zero h)
  exact ⟨_, by rw [pick, List.getElem?_eq_getElem hl]⟩

theorem pick_of_size_eq_zero (h : r.size = 0) (choice : Nat) : r.pick choice = .error .noCells := by
  rw [← length_toList, List.length_eq_zero_iff] at h
  rw [pick, h]
  rfl

theorem size_ofList_eq_zero_iff {cells : List Cell} : (ofList cells).size = 0 ↔ cells = [] := by
  constructor
  · intro h
    by_contra hne
    obtain ⟨x, hx⟩ := List.exists_mem_of_ne_nil _ hne
    obtain ⟨before, y, after, hl, hn, -⟩ := exists_last Cell.ecgi hx
    have hy := mem_toList_ofList.2 ⟨before, after, hl, hn⟩
    rw [← length_toList, List.length_eq_zero_iff] at h
    rw [h] at hy
    cases hy
  · rintro rfl
    rfl

end CellRegistry

namespace CellSource

variable {r : CellRegistry}

theorem exists_gives (h : r.size ≠ 0) (choice : Nat → Nat) (n asked : Nat) :
    ∃ cells s', (chosen choice).Gives ⟨r, asked⟩ cells s' ∧ cells.length = n := by
  induction n generalizing asked with
  | zero => exact ⟨[], _, .nil, rfl⟩
  | succ n ih =>
      obtain ⟨x, hx⟩ := CellRegistry.exists_pick h (choice asked)
      obtain ⟨cells, s', hg, hl⟩ := ih (asked + 1)
      exact ⟨x :: cells, s', .cons (Prod.ext hx rfl) hg, congrArg Nat.succ hl⟩

end CellSource

namespace Population

variable {r : CellRegistry} {n : Nat} {ds : List Draw}

theorem le_card_free_row (h : n ≤ capacity) : n ≤ (empty.free (Draw.row 0 n)).card := by
  have hf : empty.free (Draw.row 0 n) = (Finset.range n).image fun i => (Draw.numbered i).imsi := by
    ext i
    rw [mem_free, Finset.mem_image]
    simp only [Draw.row, List.mem_map, List.mem_range, Finset.mem_range, Nat.zero_add]
    constructor
    · rintro ⟨⟨d, ⟨k, hk, rfl⟩, rfl⟩, -⟩
      exact ⟨k, hk, rfl⟩
    · rintro ⟨k, hk, rfl⟩
      exact ⟨⟨_, ⟨k, hk, rfl⟩, rfl⟩, rfl⟩
  rw [hf, Finset.card_image_of_injOn, Finset.card_range]
  intro i hi j hj he
  rw [Finset.coe_range, Set.mem_Iio] at hi hj
  exact Draw.eq_of_imsi_eq (by omega) (by omega) he

theorem exists_create_empty (hn : n ≤ capacity) (h : n = 0 ∨ r.size ≠ 0) (choice : Nat → Nat)
    (hd : n ≤ (empty.free ds).card) :
    ∃ imsis q, (empty.create (.chosen choice) n ds ⟨r, 0⟩).1 = some (.ok (imsis, q)) ∧
      q.size = n := by
  have hg : ∃ cells s', (CellSource.chosen choice).Gives ⟨r, 0⟩ cells s' ∧ cells.length = n := by
    rcases h with rfl | h
    · exact ⟨[], _, .nil, rfl⟩
    · exact CellSource.exists_gives h choice n 0
  obtain ⟨cells, s', hg, hl⟩ := hg
  have hroom : empty.size + n ≤ capacity := (Nat.zero_add n).symm ▸ hn
  obtain ⟨new, q, hc, -, -⟩ := (create_allOrNothing empty _ n _).met cells s' hg hl hroom ds hd
  have hr := congrArg Prod.fst hc
  have hq : q.size = n := (size_create hr).trans (Nat.zero_add n)
  dsimp only at hr
  cases he : (empty.create (.chosen choice) n ds ⟨r, 0⟩).1 with
  | none =>
      rw [he] at hr
      cases hr
  | some x =>
      rw [he] at hr
      cases x with
      | error e => cases hr
      | ok x =>
          cases hr
          exact ⟨x.1, x.2, rfl, hq⟩

theorem create_empty_refused (hm : n ≤ capacity) (hn : n ≠ 0) (h : r.size = 0)
    (choice : Nat → Nat) (ds : List Draw) :
    (empty.create (.chosen choice) n ds ⟨r, 0⟩).1 = some (.error .noCells) := by
  have hp : (CellSource.chosen choice).pick ⟨r, 0⟩ = (.error .noCells, ⟨r, 1⟩) :=
    Prod.ext (CellRegistry.pick_of_size_eq_zero h (choice 0)) rfl
  have hm : empty.size + n ≤ capacity := (Nat.zero_add n).symm ▸ hm
  rw [create_of_le (le_mostCells hm), CellSource.Gives.nil.gather_error (Nat.pos_of_ne_zero hn) hp]

end Population

namespace Lifecycle

variable {c : AgentConfig} {l l' : Lifecycle} {e : SessionError}

theorem run_of_callStep? (h : callStep? c l = some l') (n : Nat) :
    run c (n + 1) l = run c n l' := by
  rw [run, h]
  rfl

theorem run_at_rest (hh : l.holder = none) (hw : l.waiting = []) (hm : l.monitors = []) (n : Nat) :
    run c n l = l := by
  cases n with
  | zero => rfl
  | succ n => simp only [run, callStep?, monitorStep?, hh, hw, hm, List.find?_nil]; rfl

theorem wait_of_holder_eq_none (hh : l.holder = none) (n : Nat) : wait c n l = l := by
  cases n with
  | zero => rfl
  | succ n => rw [wait, hh]

theorem perform_start_unconnected (hh : l.holder = none) (hs : l.agent.status = .disconnected)
    (hm : l.monitors = []) (he : l.peer.connectError = some e) :
    (l.perform c [.start]).1 = [.error (connectError c.address e)] ∧
      (l.perform c [.start]).2.agent.status = .disconnected := by
  let l₁ : Lifecycle := { l with
    agent := ⟨.connecting, l.agent.attached, l.agent.lifecycle + 1⟩
    waiting := []
    holder := some .connecting
    results := []
    events := l.events ++ [.connect .connecting c.address] }
  let l₂ : Lifecycle := { l₁ with
    agent := l₁.agent.disconnect
    holder := none
    results := [.error (connectError c.address e)] }
  have h₁ : callStep? c { l with waiting := [.start], results := [] } = some l₁ := by
    simp only [callStep?, acquire, Agent.beginStart, hh, hs, if_true]
    rfl
  have h₂ : callStep? c l₁ = some l₂ := by
    change some (connect c l₁) = some l₂
    rw [connect, show l₁.peer.connectError = some e from he]
    rfl
  have hr : run c 12 { l with waiting := [.start], results := [] } = l₂ := by
    rw [run_of_callStep? h₁, run_of_callStep? h₂]
    exact run_at_rest (l := l₂) rfl rfl hm 10
  have hn : momentsFor { l with waiting := [.start], results := [] } = 12 := by
    rw [momentsFor, hm]
    rfl
  have hp : l.perform c [.start] = (l₂.results, l₂.modifyReporting fun r => r.settle c.kpm) := by
    simp only [perform, settle, hn, hr]
    rw [wait_of_holder_eq_none rfl]
    rfl
  rw [hp]
  exact ⟨rfl, rfl⟩

end Lifecycle

namespace Configuration

variable {c : Configuration} {plmn : Plmn}

def CanHold (c : Configuration) (count : Nat) : Prop := count = 0 ∨ ∃ n ∈ c.nodes, n.cells ≠ []

instance (count : Nat) : Decidable (c.CanHold count) :=
  inferInstanceAs (Decidable (count = 0 ∨ ∃ n ∈ c.nodes, n.cells ≠ []))

theorem canHold_iff (plmn : Plmn) {count : Nat} : c.CanHold count ↔
    count = 0 ∨ (CellRegistry.ofList (c.cellEntries.map (cellOf plmn))).size ≠ 0 := by
  have hs : (CellRegistry.ofList (c.cellEntries.map (cellOf plmn))).size = 0 ↔
      ∀ n ∈ c.nodes, n.cells = [] := by
    rw [CellRegistry.size_ofList_eq_zero_iff, List.map_eq_nil_iff, cellEntries,
      List.flatMap_eq_nil_iff]
    simp only [List.map_eq_nil_iff]
  rw [CanHold, ne_eq, hs]
  simp only [not_forall, exists_prop, ne_eq]

theorem not_canHold_iff {count : Nat} : ¬ c.CanHold count ↔
    count ≠ 0 ∧ (CellRegistry.ofList (c.cellEntries.map (cellOf plmn))).size = 0 := by
  rw [canHold_iff plmn, not_or, not_not]

end Configuration

namespace Launch

variable {c : Configuration} {plmn : Plmn} {r : CellRegistry} {n : Nat} {peer : String → Peer}
  {why : String → SessionError} {agents : List AgentConfig}

theorem exists_populate (hn : n ≤ Population.capacity) (h : n = 0 ∨ r.size ≠ 0) :
    ∃ q, populate r n (candidates r n) = .ok q ∧ q.size = n := by
  have hd : n ≤ (Population.empty.free (candidates r n)).card := by
    rw [candidates, Nat.min_eq_left hn]
    split
    · rename_i hr
      rw [h.resolve_right (not_not_intro hr)]
      exact Nat.zero_le _
    · exact Population.le_card_free_row hn
  obtain ⟨imsis, q, hq, hs⟩ := Population.exists_create_empty hn h id hd
  rw [show CellSource.chosen id = .rotation from rfl] at hq
  exact ⟨q, by rw [populate, hq], hs⟩

theorem populate_refused (hm : n ≤ Population.capacity) (hn : n ≠ 0) (h : r.size = 0)
    (ds : List Draw) : populate r n ds = .error (.population .noCells) := by
  have hq := Population.create_empty_refused hm hn h id ds
  rw [show CellSource.chosen id = .rotation from rfl] at hq
  rw [populate, hq]

def refusal (why : String → SessionError) (a : AgentConfig) : RequestError :=
  connectError a.address (why a.address)

theorem Serves.first {p : NodeEntry × String} {a : AgentConfig} (h : Serves c plmn p a) :
    ∃ front e back, c.controllers = front ++ e :: back ∧ e.id = p.2 ∧
      (∀ x ∈ front, x.id ≠ p.2) ∧ a.address = e.endpoint := by
  obtain ⟨e, he, ha⟩ := h.address
  obtain ⟨hid, front, back, hl, hne⟩ := Configuration.controller_eq_ok_iff.1 he
  exact ⟨front, e, back, hl, hid, hne, ha⟩

theorem exists_create (h : c.WellLaid) (hp : c.plmnId = .ok plmn) (hn : n ≤ Population.capacity)
    (hold : c.CanHold n) (epoch : Int) :
    ∃ q agents, q.size = n ∧ List.Forall₂ (Serves c plmn) (pairs c) agents ∧
      create c n (candidates (.ofList (c.cellEntries.map (Configuration.cellOf plmn))) n) epoch =
        .ok ⟨q, agents.map fun a => (a, .begin ⟨.start q epoch, []⟩)⟩ := by
  obtain ⟨agents, hs, hc⟩ := create_eq h hp (Configuration.cells_eq_map h hp)
  obtain ⟨q, hq, hl⟩ := exists_populate hn ((Configuration.canHold_iff _).1 hold)
  refine ⟨q, agents, hl, hs, ?_⟩
  rw [hc, hq]
  rfl

theorem create_refused (h : c.WellLaid) (hm : n ≤ Population.capacity) (hold : ¬ c.CanHold n)
    (ds : List Draw) (epoch : Int) :
    create c n ds epoch = .error (.population .noCells) := by
  obtain ⟨plmn, hp⟩ := h.exists_plmnId
  obtain ⟨agents, -, hc⟩ := create_eq h hp (Configuration.cells_eq_map h hp)
  obtain ⟨hn, hr⟩ := Configuration.not_canHold_iff.1 hold
  rw [hc, populate_refused hm hn hr]
  rfl

theorem unconnected_of_serves (h : List.Forall₂ (Serves c plmn) (pairs c) agents)
    (hpeer : ∀ e ∈ c.controllers, (peer e.endpoint).connectError = some (why e.endpoint)) :
    ∀ a ∈ agents, (peer a.address).connectError = some (why a.address) := by
  have ha : List.Forall₂ (fun a p => (peer a.address).connectError = some (why a.address) ∧
      Serves c plmn p a) agents (pairs c) := by
    refine h.flip.imp fun a p hs => ⟨?_, hs⟩
    obtain ⟨front, e, back, hl, -, -, ha⟩ := hs.first
    rw [ha]
    exact hpeer e (mem_of_eq_append hl e (.head _))
  exact ((List.forall₂_and_left _ _).1 ha).1

theorem call_start_unconnected (h : ∀ a ∈ agents, (peer a.address).connectError =
    some (why a.address)) (q : Population) (node : Node) :
    (call peer .start ⟨q, agents.map fun a => (a, .begin node)⟩).1 =
        agents.map (fun a => .error (refusal why a)) ∧
      (call peer .start ⟨q, agents.map fun a => (a, .begin node)⟩).2.activeCount = 0 := by
  have hp : ∀ a ∈ agents, _ := fun a ha => Lifecycle.perform_start_unconnected (c := a)
    (l := { Lifecycle.begin node with peer := peer a.address }) rfl rfl rfl (h a ha)
  constructor
  · simp only [call, List.map_map, List.flatMap_map]
    clear h
    induction agents with
    | nil => rfl
    | cons a as ih =>
        rw [List.flatMap_cons, ih fun b hb => hp b (.tail _ hb)]
        exact congrArg (· ++ _) (hp a (.head _)).1
  · rw [activeCount, List.countP_eq_zero]
    simp only [call, List.map_map, List.mem_map]
    rintro _ ⟨a, ha, rfl⟩
    simp only [Function.comp_apply, (hp a ha).2]
    decide

end Launch

namespace Program

theorem failures_of_errors {α : Type} (what : String) (f : α → RequestError) (as : List α) :
    failures what (as.map fun a => .error (f a)) =
      as.map fun a => ⟨.error, s!"{what}: {(f a).message}"⟩ := by
  induction as with
  | nil => rfl
  | cons a as ih =>
      rw [List.map_cons, List.map_cons, ← ih]
      rfl

theorem startReport_of_errors {α : Type} (f : α → RequestError) {as : List α} (h : as ≠ []) :
    startReport (as.map fun a => .error (f a)) =
      as.map (fun a => ⟨.error, s!"E2 agent failed to start: {(f a).message}"⟩) ++
        [⟨.warn, "No E2 agent is connected"⟩,
          info s!"E2 node initialized successfully (0 of {as.length} agents active)"] := by
  have hr : as.map (fun a => (.error (f a) : Except RequestError Unit)) ≠ [] := by
    rwa [ne_eq, List.map_eq_nil_iff]
  rw [startReport, failures_of_errors, List.length_map, List.length_map, Nat.sub_self,
    if_pos ⟨rfl, hr⟩, List.append_assoc]
  rfl

section

variable {s : Surroundings} {o : Options} {c : Configuration} {cells : List Cell} {l : Launch}
  {e : LaunchError} {count : Nat}

theorem runConfigured_of_create (hcount : (o.ueCount.getD c.ueCount).toNat = count)
    (hc : c.cells = .ok cells)
    (hl : Launch.create c count (Launch.candidates (.ofList cells) count) s.epoch = .ok l) :
    ∃ later, runConfigured s o c = .running
      ((LogFilter.choose s.filter (o.logLevel.getD c.logLevel)).shows part
        (opening o.configName c (o.ueCount.getD c.ueCount) ++ startReport (l.call s.peer .start).1))
      later := by
  subst hcount
  simp only [runConfigured, hc, hl]
  exact ⟨_, rfl⟩

theorem runConfigured_of_create_error (hcount : (o.ueCount.getD c.ueCount).toNat = count)
    (hl : ∀ ds, Launch.create c count ds s.epoch = .error e) (he : e ≠ .noRoom) :
    runConfigured s o c = .failed
      ((LogFilter.choose s.filter (o.logLevel.getD c.logLevel)).shows part
        (opening o.configName c (o.ueCount.getD c.ueCount)))
      (failureText e.message) := by
  subst hcount
  simp only [runConfigured, hl]

end

/-- The program starts, and no controller that is configured can be reached. -/
theorem startup_unreachable (c : Configuration) (h : c.fault? = none) (s : Surroundings)
    (o : Options) (hcount : (o.ueCount.getD c.ueCount).toNat ≤ 9000000)
    (why : String → SessionError)
    (hpeer : ∀ e ∈ c.controllers, (s.peer e.endpoint).connectError = some (why e.endpoint)) :
    let count := (o.ueCount.getD c.ueCount).toNat
    let shows := (LogFilter.choose s.filter (o.logLevel.getD c.logLevel)).shows part
    let before := opening o.configName c (o.ueCount.getD c.ueCount)
    ∃ plmn cells, c.plmnId = .ok plmn ∧ c.cells = .ok cells ∧
      ((runConfigured s o c).isRunning = true ↔ c.CanHold count) ∧
      (c.CanHold count →
        (∀ choice ds, count ≤ (Population.empty.free ds).card → ∃ imsis q,
          (Population.empty.create (.chosen choice) count ds ⟨.ofList cells, 0⟩).1 =
            some (.ok (imsis, q)) ∧ q.size = count) ∧
        ∃ q agents later, q.size = count ∧
          List.Forall₂ (fun p a => a.node = ⟨p.1.id, plmn⟩ ∧ ∃ front e back,
              c.controllers = front ++ e :: back ∧ e.id = p.2 ∧ (∀ x ∈ front, x.id ≠ p.2) ∧
              a.address = e.endpoint)
            (c.nodes.flatMap fun n => n.controllers.map fun id => (n, id)) agents ∧
          agents.length = (c.nodes.map fun n => n.controllers.length).sum ∧
          let l : Launch := ⟨q, agents.map fun a => (a, .begin ⟨.start q s.epoch, []⟩)⟩
          Launch.create c count (Launch.candidates (.ofList cells) count) s.epoch = .ok l ∧
          (l.call s.peer .start).2.activeCount = 0 ∧
          runConfigured s o c = .running (shows (before ++
            agents.map (fun a => ⟨.error,
              s!"E2 agent failed to start: {(Launch.refusal why a).message}"⟩) ++
            [⟨.warn, "No E2 agent is connected"⟩, info
              s!"E2 node initialized successfully (0 of {agents.length} agents active)"])) later) ∧
      (¬ c.CanHold count →
        (∀ choice ds, (Population.empty.create (.chosen choice) count ds
          ⟨.ofList cells, 0⟩).1 = some (.error .noCells)) ∧
        (∀ ds, Launch.create c count ds s.epoch = .error (.population .noCells)) ∧
        runConfigured s o c = .failed (shows before) "Error: creating UE population") := by
  intro count shows before
  have hw := Configuration.fault?_eq_none_iff.1 h
  obtain ⟨plmn, hp⟩ := hw.exists_plmnId
  let cells := c.cellEntries.map (Configuration.cellOf plmn)
  have hc : c.cells = .ok cells := Configuration.cells_eq_map hw hp
  have hfail (hold : ¬ c.CanHold count) :
      runConfigured s o c = .failed (shows before) "Error: creating UE population" :=
    runConfigured_of_create_error rfl (fun ds => Launch.create_refused hw hcount hold ds s.epoch)
      nofun
  refine ⟨plmn, cells, hp, hc, ⟨fun hr => ?_, fun hold => ?_⟩, fun hold => ⟨?_, ?_⟩,
    fun hold => ⟨?_, fun ds => Launch.create_refused hw hcount hold ds s.epoch, hfail hold⟩⟩
  · by_contra hold
    rw [hfail hold] at hr
    cases hr
  · obtain ⟨q, agents, -, -, hl⟩ := Launch.exists_create hw hp hcount hold s.epoch
    obtain ⟨later, hrun⟩ := runConfigured_of_create rfl hc hl
    rw [hrun]
    rfl
  · intro choice ds hd
    exact Population.exists_create_empty hcount ((Configuration.canHold_iff _).1 hold) choice hd
  · obtain ⟨q, agents, hq, hs, hl⟩ := Launch.exists_create hw hp hcount hold s.epoch
    have hne : agents ≠ [] := by
      rintro rfl
      exact Launch.pairs_ne_nil hw (List.forall₂_nil_right_iff.1 hs)
    have hn : agents.length = (c.nodes.map fun n => n.controllers.length).sum := by
      rw [← hs.length_eq, Launch.pairs, List.length_flatMap]
      simp only [List.length_map]
    obtain ⟨hcall, hactive⟩ := Launch.call_start_unconnected
      (Launch.unconnected_of_serves hs hpeer) q ⟨.start q s.epoch, []⟩
    obtain ⟨later, hrun⟩ := runConfigured_of_create rfl hc hl
    rw [hcall, startReport_of_errors _ hne, ← List.append_assoc] at hrun
    exact ⟨q, agents, later, hq, hs.imp fun p a hs => ⟨hs.node, hs.first⟩, hn, hl, hactive, hrun⟩
  · intro choice ds
    obtain ⟨hn, hr⟩ := Configuration.not_canHold_iff.1 hold
    exact Population.create_empty_refused hcount hn hr choice ds

theorem startup_towards_repeated_controller :
    let text := "[\"00101\",5,[[\"r\",\"a\"],[\"r\",\"b\"]]," ++
      "[[7,[\"r\",\"r\"],[]],[4,[\"r\"],[[1,[0,0]]]]]]"
    let c : Configuration := ⟨"00101", 5, [⟨"r", "a", 36421⟩, ⟨"r", "b", 36421⟩],
      [⟨7, ["r", "r"], []⟩, ⟨4, ["r"], [⟨1, .origin, none, 99999, Dialect.defaultPower⟩]⟩], "info"⟩
    let bare := { c with nodes := c.nodes.take 1 }
    let s : Surroundings := ⟨fun _ => none, none, .absent, 0⟩
    let o : Options := ⟨none, none, some 2⟩
    Configuration.parse text "json" = .ok c ∧
      (∃ log later, runConfigured s o c = .running log later ∧
        info "E2 node initialized successfully (0 of 3 agents active)" ∈ log) ∧
      bare.fault? = none ∧
      ∃ log, runConfigured s o bare = .failed log "Error: creating UE population" := by
  intro text c bare s o
  have hr : Configuration.parse text "json" = .ok c := eq_ok_of_toOption (by decide +kernel)
  have hb : bare.fault? = none := by decide
  let why (address : String) : SessionError :=
    (Address.error? address).getD (.connectionFailed s!"{address}: connection refused")
  have hup := startup_unreachable c (Configuration.fault?_of_parse hr) s o (by decide) why
    fun _ _ => rfl
  have hdown := startup_unreachable bare hb s o (by decide) why fun _ _ => rfl
  obtain ⟨plmn, cells, -, -, -, hheld, -⟩ := hup
  obtain ⟨-, q, agents, later, -, -, hn, -, -, hrun⟩ := hheld (by decide)
  obtain ⟨plmn', cells', -, -, -, -, hfail⟩ := hdown
  obtain ⟨-, -, hfailed⟩ := hfail (by decide)
  refine ⟨hr, ⟨_, later, hrun, ?_⟩, hb, _, hfailed⟩
  have ht : s!"E2 node initialized successfully (0 of {agents.length} agents active)" =
      "E2 node initialized successfully (0 of 3 agents active)" := by
    rw [show agents.length = 3 from hn]
    rfl
  rw [LogFilter.shows, List.mem_filter, ht]
  exact ⟨List.mem_append_right _ (.tail _ (.head _)), by decide⟩

end Program

end E2Node
