import E2Node.Proofs.Agent.Attachment
import Mathlib.Data.List.Nodup

namespace E2Node.Lifecycle

inductive Deed
  | started
  | stopped
  | opened (s : SessionId)
  | noticed (s : SessionId)
  | other
  deriving DecidableEq

def Deed.after (o : Option SessionId) : Deed → Option SessionId
  | .started | .stopped => none
  | .opened s => some s
  | .noticed s => if o = some s then none else o
  | .other => o

/-- The session that was opened last, unless it was stopped, replaced or seen to have ended. -/
def current (ds : List Deed) : Option SessionId := ds.foldl Deed.after none

theorem current_append (ds : List Deed) (d : Deed) : current (ds ++ [d]) = d.after (current ds) :=
  List.foldl_concat ..

def deed (l l' : Lifecycle) : Deed :=
  match l.holder, l.waiting, l'.holder with
  | none, .start :: _, some _ => .started
  | none, .stop :: _, _ => .stopped
  | some (.settingUp s _), _, none => .opened s
  | _, _, _ => .other

/-- Moments in a row, with what they meant. Sessions may end at any time, and a monitor may have to
wait for the lock. -/
inductive History (c : AgentConfig) (node : Node) : List Deed → Lifecycle → Prop
  | start : History c node [] (begin node)
  | call {ds l l'} (h : History c node ds l) (hs : callStep? c l = some l') :
      History c node (ds ++ [l.deed l']) l'
  | monitor {ds l m} (h : History c node ds l) (hh : l.holder = none) (hm : m ∈ l.monitors)
      (hc : l.node.reporting.isClosed m.session = true) :
      History c node (ds ++ [.noticed m.session])
        { l with agent := l.agent.sessionEnded m, monitors := l.monitors.erase m }
  | other {ds l} (h : History c node ds l) (calls results events peer node') :
      History c node (ds ++ [.other]) { l with
        waiting := calls, results := results, events := events, peer := peer, node := node' }

variable {c : AgentConfig} {node : Node} {l l' : Lifecycle} {ds : List Deed} {m : Monitor}
  {gone : Set SessionId}

theorem deed_start {rest : List Call} (hh : l.holder = none) (hw : l.waiting = .start :: rest) :
    l.deed l' = if l'.holder.isSome then .started else .other := by
  rw [deed, hh, hw]
  cases l'.holder <;> rfl

theorem deed_stop {rest : List Call} (hh : l.holder = none) (hw : l.waiting = .stop :: rest) :
    l.deed l' = .stopped := by
  rw [deed, hh, hw]

theorem deed_settingUp {s : SessionId} {n : Nat} (hh : l.holder = some (.settingUp s n)) :
    l.deed l' = if l'.holder.isSome then .other else .opened s := by
  rw [deed, hh]
  cases l'.holder <;> rfl

theorem deed_other {stage : Stage} (hh : l.holder = some stage)
    (hs : ∀ s n, stage ≠ .settingUp s n) : l.deed l' = .other := by
  rw [deed, hh]
  cases stage with
  | settingUp s n => exact absurd rfl (hs s n)
  | connecting | attached | givingUp | closing => rfl

theorem History.move (h : History c node ds l) (hm : Move c l l') :
    ∃ d, History c node (ds ++ [d]) l' := by
  cases hm with
  | ask calls results events => exact ⟨_, h.other calls results events l.peer l.node⟩
  | expect p => exact ⟨_, h.other l.waiting l.results l.events p l.node⟩
  | call hs => exact ⟨_, h.call hs⟩
  | monitor hh hm hc => exact ⟨_, h.monitor hh hm hc⟩
  | serve | report => exact ⟨_, h.other l.waiting l.results l.events l.peer _⟩

theorem History.runs (h : History c node ds l) (hr : Runs c l l') :
    ∃ ds', History c node ds' l' := by
  induction hr with
  | refl => exact ⟨ds, h⟩
  | tail _ hm ih =>
      obtain ⟨ds', h'⟩ := ih
      obtain ⟨d, hd⟩ := h'.move hm
      exact ⟨_, hd⟩

theorem History.course (h : History c node ds l) : ∃ gone, Course c node gone l := by
  induction h with
  | start => exact ⟨_, .start⟩
  | call _ hs ih => exact ih.imp' _ fun _ hg => hg.next (.call hs)
  | monitor _ hh hm hc ih => exact ih.imp' _ fun _ hg => hg.next (.monitor hh hm hc)
  | other _ calls results events peer node' ih =>
      obtain ⟨gone, hg⟩ := ih
      exact ⟨_, ((hg.next (.ask calls results events)).next (.expect peer)).next (.work node')⟩

def opening? (l : Lifecycle) : Option SessionId :=
  match l.holder with
  | some (.attached s) | some (.settingUp s _) => some s
  | _ => none

/-- Each session that was opened has a monitor until its end was noticed, and only the monitor of
the current session has the agent's number. -/
structure Minded (ds : List Deed) (l : Lifecycle) : Prop where
  busy : l.holder ≠ none → current ds = none
  free : l.holder = none → current ds = l.agent.attached
  distinct : (l.monitors.map Monitor.session).Nodup
  handed : ∀ m ∈ l.monitors, m.session.val < l.peers.length
  fresh : ∀ s, l.opening? = some s → ∀ m ∈ l.monitors, m.session ≠ s
  numbered : ∀ m ∈ l.monitors, m.lifecycle < l.agent.lifecycle ∨
    m.lifecycle = l.agent.lifecycle ∧ current ds = some m.session
  minded : ∀ s, current ds = some s →
    ∃ m ∈ l.monitors, m.session = s ∧ m.lifecycle = l.agent.lifecycle
  kept : ∀ s, .opened s ∈ ds → .noticed s ∉ ds → ∃ m ∈ l.monitors, m.session = s

namespace Minded

theorem begin : Minded [] (begin node) where
  busy hh := absurd rfl hh
  free _ := rfl
  distinct := .nil
  handed := nofun
  fresh := nofun
  numbered := nofun
  minded := nofun
  kept := nofun

theorem lt (h : Minded ds l) (hc : current ds = none) (hm : m ∈ l.monitors) :
    m.lifecycle < l.agent.lifecycle := by
  rcases h.numbered m hm with hlt | ⟨-, he⟩
  · exact hlt
  · rw [hc] at he
    cases he

theorem le (h : Minded ds l) (hm : m ∈ l.monitors) : m.lifecycle ≤ l.agent.lifecycle := by
  rcases h.numbered m hm with hlt | ⟨he, -⟩
  · exact Nat.le_of_lt hlt
  · exact Nat.le_of_eq he

theorem kept_append (h : Minded ds l) {d : Deed} {s : SessionId} (ho : .opened s ∈ ds ++ [d])
    (hn : .noticed s ∉ ds ++ [d]) (hd : ∀ s, d ≠ .opened s) :
    ∃ m ∈ l.monitors, m.session = s := by
  refine h.kept s ?_ fun h => hn (List.mem_append_left _ h)
  rcases List.mem_append.1 ho with ho | ho
  · exact ho
  · exact absurd (List.mem_singleton.1 ho).symm (hd s)

theorem same (h : Minded ds l) (hm : l'.monitors = l.monitors) (hp : l'.peers = l.peers)
    (ha : l'.agent = l.agent) (hh : l'.holder = l.holder) : Minded (ds ++ [.other]) l' where
  busy := by
    rw [hh, current_append]
    exact h.busy
  free := by
    rw [hh, ha, current_append]
    exact h.free
  distinct := hm ▸ h.distinct
  handed := by
    rw [hm, hp]
    exact h.handed
  fresh := by
    rw [opening?, hm, hh]
    exact h.fresh
  numbered := by
    rw [hm, ha, current_append]
    exact h.numbered
  minded := by
    rw [hm, ha, current_append]
    exact h.minded
  kept s ho hn := by
    rw [hm]
    exact h.kept_append ho hn nofun

theorem outdated (h : Minded ds l) {d : Deed} (hd : ∀ s, d ≠ .opened s)
    (hc : d.after (current ds) = none) (hm : l'.monitors = l.monitors)
    (hp : l.peers.length ≤ l'.peers.length)
    (hl : ∀ m ∈ l.monitors, m.lifecycle < l'.agent.lifecycle)
    (ha : l'.holder = none → l'.agent.attached = none)
    (hf : ∀ s, l'.opening? = some s → s = ⟨l.peers.length⟩ ∨ l.opening? = some s) :
    Minded (ds ++ [d]) l' where
  busy _ := (current_append ds d).trans hc
  free hh := by rw [current_append, hc, ha hh]
  distinct := hm ▸ h.distinct
  handed m hi := (h.handed m (hm ▸ hi)).trans_le hp
  fresh s hs m hi he := by
    rcases hf s hs with rfl | ho
    · exact (he ▸ h.handed m (hm ▸ hi)).false
    · exact h.fresh s ho m (hm ▸ hi) he
  numbered m hi := .inl (hl m (hm ▸ hi))
  minded s hs := by
    rw [current_append, hc] at hs
    cases hs
  kept s ho hn := hm ▸ h.kept_append ho hn hd

theorem accepted (h : Minded ds l) (ha : Attended gone l) {s : SessionId} {n : Nat}
    (hh : l.holder = some (.settingUp s n)) (results : List (Except RequestError Unit)) :
    Minded (ds ++ [.opened s]) { l with
      agent := l.agent.activate
      holder := none
      monitors := l.monitors ++ [l.agent.monitor s]
      results := results } := by
  have hs := ha.stands
  rw [hh] at hs
  obtain ⟨-, hs, hv, -⟩ := hs
  have hn : current ds = none := h.busy (by rw [hh]; simp)
  have hc : current (ds ++ [.opened s]) = some s := current_append ..
  refine ⟨fun hh => absurd rfl hh, fun _ => hc.trans hs.symm, ?_, fun m hm => ?_, nofun,
    fun m hm => ?_, fun s' hs' => ?_, fun s' ho hne => ?_⟩
  · rw [List.map_append, List.map_singleton]
    refine List.nodup_append.2 ⟨h.distinct, List.nodup_singleton _, fun x hx y hy he => ?_⟩
    obtain ⟨m, hm, rfl⟩ := List.mem_map.1 hx
    exact h.fresh s (by rw [opening?, hh]) m hm (he.trans (List.mem_singleton.1 hy))
  · rcases List.mem_append.1 hm with hm | hm
    · exact h.handed m hm
    · rw [List.mem_singleton.1 hm]
      show s.val < l.peers.length
      omega
  · rcases List.mem_append.1 hm with hm | hm
    · exact .inl (h.lt hn hm)
    · rw [List.mem_singleton.1 hm]
      exact .inr ⟨rfl, hc⟩
  · cases hc.symm.trans hs'
    exact ⟨_, List.mem_append_right _ (.head _), rfl, rfl⟩
  · rcases List.mem_append.1 ho with ho | ho
    · obtain ⟨m, hm, he⟩ := h.kept s' ho fun h => hne (List.mem_append_left _ h)
      exact ⟨m, List.mem_append_left _ hm, he⟩
    · cases List.mem_singleton.1 ho
      exact ⟨_, List.mem_append_right _ (.head _), rfl⟩

theorem callStep (h : Minded ds l) (ha : Attended gone l) (hs : CallStep c l l') :
    Minded (ds ++ [l.deed l']) l' := by
  have late (m) (hm : m ∈ l.monitors) : m.lifecycle < l.agent.lifecycle + 1 :=
    Nat.lt_succ_of_le (h.le hm)
  have none_of {stage : Stage} (hh : l.holder = some stage) : current ds = none :=
    h.busy (by rw [hh]; simp)
  have hst := ha.stands
  cases hs with
  | refused hh hw =>
      rw [deed_start hh hw, hh]
      exact h.same rfl rfl rfl hh.symm
  | begun hh hw =>
      rw [deed_start hh hw]
      exact h.outdated nofun rfl rfl le_rfl late nofun nofun
  | stopped hh hw =>
      rw [deed_stop hh hw, hh]
      exact h.outdated nofun rfl rfl le_rfl late (fun _ => rfl) nofun
  | stopping hh hw =>
      rw [deed_stop hh hw]
      exact h.outdated nofun rfl rfl le_rfl late nofun nofun
  | unconnected hh =>
      rw [deed_other hh nofun]
      rw [hh] at hst
      exact h.outdated nofun (none_of hh) rfl le_rfl (fun _ => h.lt (none_of hh))
        (fun _ => hst.2.1) nofun
  | connected hh =>
      rw [deed_other hh nofun]
      refine h.outdated nofun (none_of hh) rfl (by simp) (fun _ => h.lt (none_of hh)) nofun ?_
      exact fun s hs => .inl (Option.some.inj hs).symm
  | pended hh =>
      rw [deed_other hh nofun]
      refine h.outdated nofun (none_of hh) rfl le_rfl (fun _ => h.lt (none_of hh)) nofun ?_
      exact fun s hs => .inr (by rw [opening?, hh]; exact hs)
  | accepted hh =>
      rw [deed_settingUp hh]
      exact h.accepted ha hh _
  | rejected hh =>
      rw [deed_settingUp hh]
      exact h.outdated nofun (none_of hh) rfl le_rfl (fun _ => h.lt (none_of hh)) nofun nofun
  | gaveUp hh | closed hh =>
      rw [deed_other hh nofun]
      rw [hh] at hst
      exact h.outdated nofun (none_of hh) rfl le_rfl (fun _ => h.lt (none_of hh))
        (fun _ => hst.2.1) nofun

theorem number_eq_iff (h : Minded ds l) (hm : m ∈ l.monitors) :
    m.lifecycle = l.agent.lifecycle ↔ current ds = some m.session := by
  constructor
  · intro hl
    rcases h.numbered m hm with hlt | ⟨-, hc⟩
    · omega
    · exact hc
  · intro hc
    obtain ⟨x, hx, hs, hl⟩ := h.minded _ hc
    rwa [← List.inj_on_of_nodup_map h.distinct hx hm hs]

theorem sessionEnded (h : Minded ds l) (hm : m ∈ l.monitors) : l.agent.sessionEnded m =
    if current ds = some m.session then ⟨.disconnected, none, l.agent.lifecycle⟩ else l.agent := by
  simp only [Agent.sessionEnded, h.number_eq_iff hm]
  rfl

theorem monitor (h : Minded ds l) (hh : l.holder = none) (hm : m ∈ l.monitors) :
    Minded (ds ++ [.noticed m.session])
      { l with agent := l.agent.sessionEnded m, monitors := l.monitors.erase m } := by
  have rest {x : Monitor} (hx : x ∈ l.monitors.erase m) :
      x ∈ l.monitors ∧ x.session ≠ m.session := by
    obtain ⟨hne, hx⟩ := (List.Nodup.mem_erase_iff h.distinct.of_map).1 hx
    exact ⟨hx, fun he => hne (List.inj_on_of_nodup_map h.distinct hx hm he)⟩
  have left {x : Monitor} (hx : x ∈ l.monitors) (hne : x.session ≠ m.session) :
      x ∈ l.monitors.erase m :=
    (List.mem_erase_of_ne fun he => hne (congrArg Monitor.session he)).2 hx
  have hl : (l.agent.sessionEnded m).lifecycle = l.agent.lifecycle := by
    rw [Agent.sessionEnded]
    split <;> rfl
  have hc : current (ds ++ [.noticed m.session]) =
      if current ds = some m.session then none else current ds := current_append ..
  refine ⟨fun hb => absurd hh hb, fun _ => ?_,
    h.distinct.sublist (List.erase_sublist.map _), fun x hx => h.handed x (rest hx).1,
    fun s hs => ?_, fun x hx => ?_, fun s hs => ?_, fun s ho hn => ?_⟩
  · rw [hc, h.sessionEnded hm]
    split
    · rfl
    · exact h.free hh
  · rw [opening?, hh] at hs
    cases hs
  · obtain ⟨hx, hne⟩ := rest hx
    rw [hl, hc]
    rcases h.numbered x hx with hlt | ⟨he, hi⟩
    · exact .inl hlt
    · refine .inr ⟨he, ?_⟩
      rwa [if_neg fun hi' => hne (Option.some.inj (hi.symm.trans hi'))]
  · rw [hc] at hs
    split at hs
    · cases hs
    · rename_i hne
      obtain ⟨x, hx, rfl, he⟩ := h.minded s hs
      exact ⟨x, left hx fun hi => hne (hi ▸ hs), rfl, he.trans hl.symm⟩
  · obtain ⟨x, hx, rfl⟩ := h.kept_append ho hn fun _ hd => by cases hd
    refine ⟨x, left hx fun hi => hn ?_, rfl⟩
    rw [hi]
    exact List.mem_append_right _ (.head _)

end Minded

theorem History.minded (h : History c node ds l) : Minded ds l := by
  induction h with
  | start => exact .begin
  | call h hs ih =>
      obtain ⟨gone, hg⟩ := h.course
      exact ih.callStep hg.attended (callStep_of_callStep? hs)
  | monitor _ hh hm hc ih => exact ih.monitor hh hm
  | other _ calls results events peer node' ih => exact ih.same rfl rfl rfl rfl

theorem callStep?_begins {rest : List Call} (hh : l.holder = none) (hw : l.waiting = .start :: rest)
    (hs : l.agent.status = .disconnected) : ∃ l', callStep? c l = some l' ∧
      l'.agent = ⟨.connecting, l.agent.attached, l.agent.lifecycle + 1⟩ ∧
        l'.holder = some .connecting := by
  simp only [callStep?, hh, hw, acquire, Agent.beginStart, hs, if_true]
  exact ⟨_, rfl, rfl, rfl⟩

/-- What all monitors together make of the agent. -/
def heeded (l : Lifecycle) : Agent :=
  if l.agent.attached.any l.node.reporting.isClosed then ⟨.disconnected, none, l.agent.lifecycle⟩
  else l.agent

theorem Minded.heeded_of_open (h : Minded ds l) (hh : l.holder = none)
    (ho : ∀ m ∈ l.monitors, l.node.reporting.isClosed m.session = false) :
    l.heeded = l.agent := by
  rw [heeded, if_neg]
  cases ha : l.agent.attached with
  | none => simp
  | some s =>
      obtain ⟨m, hm, rfl, -⟩ := h.minded s ((h.free hh).trans ha)
      simp [ho m hm]

theorem Minded.heeded_monitor (h : Minded ds l) (hh : l.holder = none) (hm : m ∈ l.monitors)
    (hc : l.node.reporting.isClosed m.session = true) :
    heeded { l with agent := l.agent.sessionEnded m, monitors := l.monitors.erase m } =
      l.heeded := by
  simp only [heeded, h.sessionEnded hm, h.free hh]
  by_cases ha : l.agent.attached = some m.session
  · simp [ha, hc]
  · simp [ha]

theorem History.run_agent (h : History c node ds l) (hh : l.holder = none) (hw : l.waiting = [])
    {n : Nat} (hn : l.monitors.length ≤ n) : (l.run c n).agent = l.heeded := by
  induction n generalizing ds l with
  | zero =>
      have hm : l.monitors = [] := List.length_eq_zero_iff.1 (Nat.le_zero.1 hn)
      exact (h.minded.heeded_of_open hh (by simp [hm])).symm
  | succ n ih =>
      have hs : callStep? c l = none := by simp only [callStep?, hh, hw]
      rw [run, hs]
      simp only [Option.orElse_none]
      cases he : l.monitorStep? with
      | none => exact (h.minded.heeded_of_open hh (monitorStep?_eq_none_iff.1 he hh)).symm
      | some l' =>
          obtain ⟨-, m, hm, hc, rfl⟩ := monitorStep?_eq_some he
          rw [← h.minded.heeded_monitor hh hm hc]
          refine ih (h.monitor hh hm hc) hh hw ?_
          rw [List.length_erase_of_mem hm]
          exact Nat.sub_le_of_le_add hn

/-- The end of a session is noticed once, if and only if the session is still the current one. -/
theorem ends_noticed (h : History c node ds l) :
    (∀ m ∈ l.monitors, current ds ≠ some m.session → l.agent.sessionEnded m = l.agent) ∧
      (∀ m ∈ l.monitors, current ds = some m.session → l.holder = none ∧
        l.agent.status = .active ∧ l.agent.attached = some m.session ∧
          l.agent.sessionEnded m = ⟨.disconnected, none, l.agent.lifecycle⟩) ∧
      (∀ s, .opened s ∈ ds → .noticed s ∉ ds → ∃ m ∈ l.monitors, m.session = s) ∧
      (l.holder = none → l.agent.attached = current ds ∧
        (∀ rest, l.waiting = .start :: rest → l.agent.status = .disconnected →
          ∃ l', callStep? c l = some l' ∧
            l'.agent = ⟨.connecting, l.agent.attached, l.agent.lifecycle + 1⟩ ∧
              l'.holder = some .connecting) ∧
        (l.waiting = [] → ∀ n, l.monitors.length ≤ n → (l.run c n).agent = l.heeded)) := by
  have hm := h.minded
  refine ⟨fun m hi hc => ?_, fun m hi hc => ?_, hm.kept, fun hh => ⟨(hm.free hh).symm,
    fun rest => callStep?_begins hh, fun hw n => h.run_agent hh hw⟩⟩
  · rw [hm.sessionEnded hi, if_neg hc]
  · have hh : l.holder = none := by
      by_contra hb
      rw [hm.busy hb] at hc
      cases hc
    have ha : l.agent.attached = some m.session := (hm.free hh).symm.trans hc
    obtain ⟨gone, hg⟩ := h.course
    have hst := hg.attended.stands
    rw [hh] at hst
    refine ⟨hh, ?_, ha, by rw [hm.sessionEnded hi, if_pos hc]⟩
    rcases hst with ⟨-, hn, -⟩ | ⟨s, hs, -⟩
    · rw [ha] at hn
      cases hn
    · exact hs

/-- The monitor of the first session still waits for the lock when the second session ends. -/
theorem second_end_noticed :
    let k : Kpm.Service := ⟨⟨⟨1⟩, ⟨⟨1, 3, 8⟩, ⟨4, 2, 6⟩, 3⟩⟩, .standard, []⟩
    let c : AgentConfig :=
      ⟨k.node, "127.0.0.1:36421", ⟨[Node.kpm k], List.pairwise_singleton _ _⟩, k⟩
    let l₀ : Lifecycle := begin ⟨.start .empty 0, []⟩
    let l := ({ l₀ with waiting := [.start, .stop, .start] }.run c 10).modifyLink ⟨1⟩ Link.close
    ∃ ds, History c ⟨.start .empty 0, []⟩ ds l ∧ current ds = some ⟨1⟩ ∧
      l.monitors = [⟨⟨0⟩, 1⟩, ⟨⟨1⟩, 3⟩] ∧ l.agent.sessionEnded ⟨⟨0⟩, 1⟩ = l.agent ∧
      l.agent.sessionEnded ⟨⟨1⟩, 3⟩ = ⟨.disconnected, none, 3⟩ := by
  intro k c l₀ l
  have hr : Runs c l₀ l :=
    (Relation.ReflTransGen.head (.ask l₀ [.start, .stop, .start] _ _) (run_runs c 10 _)).trans
      (modifyLink_runs c ⟨1⟩ Link.close_onward _)
  obtain ⟨ds, h⟩ := History.start.runs hr
  have hm : l.monitors = [⟨⟨0⟩, 1⟩, ⟨⟨1⟩, 3⟩] := by decide +kernel
  have ha : l.agent = ⟨.active, some ⟨1⟩, 3⟩ := by decide +kernel
  have hh : l.holder.isNone = true := by decide +kernel
  obtain ⟨hold, hnew, -, hfree⟩ := ends_noticed h
  have hc : current ds = some ⟨1⟩ := by
    rw [← (hfree (Option.isNone_iff_eq_none.1 hh)).1, ha]
  refine ⟨ds, h, hc, hm, hold _ (by simp [hm]) (by simp [hc]), ?_⟩
  rw [(hnew ⟨⟨1⟩, 3⟩ (by simp [hm]) hc).2.2.2, ha]

end E2Node.Lifecycle
