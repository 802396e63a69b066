import E2Node.Proofs.Agent.Calls
import E2Node.Proofs.Agent.Runs
import Mathlib.Data.Set.Basic

namespace E2Node.Lifecycle

def closes? (l : Lifecycle) : Option SessionId :=
  match l.holder with
  | some (.givingUp s _) | some (.closing s) => some s
  | _ => none

def Ended (l : Lifecycle) (s : SessionId) : Prop :=
  s.val < l.peers.length ∧ l.node.reporting.isClosed s = true

inductive Moment (c : AgentConfig) (l : Lifecycle) : Lifecycle → Prop
  | ask (calls) (results) (events) :
      Moment c l { l with waiting := calls, results := results, events := events }
  | expect (p : Peer) : Moment c l { l with peer := p }
  | work (node : Node) : Moment c l { l with node := node }
  | call {l'} (h : callStep? c l = some l') : Moment c l l'
  | monitor {m} (hh : l.holder = none) (hm : m ∈ l.monitors)
      (hc : l.node.reporting.isClosed m.session = true) :
      Moment c l { l with agent := l.agent.sessionEnded m, monitors := l.monitors.erase m }

/-- Moments in a row, with the sessions that were closed, or had ended by themselves, after one of
them. -/
inductive Course (c : AgentConfig) (node : Node) : Set SessionId → Lifecycle → Prop
  | start : Course c node ∅ (begin node)
  | next {gone l l'} (h : Course c node gone l) (hm : Moment c l l') :
      Course c node (gone ∪ {s | l'.Ended s}) l'

def GoneBut (gone : Set SessionId) (l : Lifecycle) (o : Option SessionId) : Prop :=
  ∀ s, s.val < l.peers.length → o ≠ some s → s ∈ gone

/-- Where the agent stands when a call has come so far, or none has the lock. -/
def Stands (gone : Set SessionId) (l : Lifecycle) : Option Stage → Prop
  | none => (l.agent.status = .disconnected ∧ l.agent.attached = none ∧ GoneBut gone l none) ∨
      ∃ s, l.agent.status = .active ∧ l.agent.attached = some s ∧ s.val + 1 = l.peers.length ∧
        GoneBut gone l (some s)
  | some .connecting =>
      l.agent.status = .connecting ∧ l.agent.attached = none ∧ GoneBut gone l none
  | some (.attached s) => l.agent.status = .connecting ∧ l.agent.attached = some s ∧
      s.val + 1 = l.peers.length ∧ GoneBut gone l (some s)
  | some (.settingUp s _) => l.agent.status = .setupPending ∧ l.agent.attached = some s ∧
      s.val + 1 = l.peers.length ∧ GoneBut gone l (some s)
  | some (.givingUp s _) =>
      l.agent.status = .setupPending ∧ l.agent.attached = none ∧ GoneBut gone l (some s)
  | some (.closing s) =>
      l.agent.status = .active ∧ l.agent.attached = none ∧ GoneBut gone l (some s)

variable {c : AgentConfig} {l l' : Lifecycle} {gone gone' : Set SessionId} {m : Monitor}
  {o : Option Stage}

theorem GoneBut.mono {s : Option SessionId} (h : GoneBut gone l s) (hg : gone ⊆ gone')
    (hp : l'.peers = l.peers) : GoneBut gone' l' s := by
  intro s' hs hne
  rw [hp] at hs
  exact hg (h s' hs hne)

theorem GoneBut.all {s : SessionId} (h : GoneBut gone l (some s)) (hg : gone ⊆ gone')
    (hs : s.val < l.peers.length → s ∈ gone') (hp : l'.peers = l.peers) :
    GoneBut gone' l' none := by
  intro s' hs' _
  rw [hp] at hs'
  by_cases he : s = s'
  · exact he ▸ hs (he ▸ hs')
  · exact hg (h s' hs' fun h => he (Option.some.inj h))

theorem Stands.mono (h : Stands gone l o) (hg : gone ⊆ gone') (ha : l'.agent = l.agent)
    (hp : l'.peers = l.peers) : Stands gone' l' o := by
  cases o with
  | none =>
      rcases h with ⟨hs, hn, ho⟩ | ⟨s, hs, hn, hl, ho⟩
      · exact .inl ⟨ha ▸ hs, ha ▸ hn, ho.mono hg hp⟩
      · exact .inr ⟨s, ha ▸ hs, ha ▸ hn, hp ▸ hl, ho.mono hg hp⟩
  | some stage =>
      cases stage with
      | connecting | givingUp | closing =>
          obtain ⟨hs, hn, ho⟩ := h
          exact ⟨ha ▸ hs, ha ▸ hn, ho.mono hg hp⟩
      | attached | settingUp =>
          obtain ⟨hs, hn, hl, ho⟩ := h
          exact ⟨ha ▸ hs, ha ▸ hn, hp ▸ hl, ho.mono hg hp⟩

theorem ended_close (l : Lifecycle) {s : SessionId} (hs : s.val < l.peers.length)
    (r : Except RequestError Unit) : ((l.close s).2.finish r).Ended s :=
  ⟨hs, Kpm.Reporting.isClosed_close l.node.reporting s⟩

theorem Stands.callStep (h : Stands gone l l.holder) (hg : gone ⊆ gone')
    (he : ∀ s, l'.Ended s → s ∈ gone') (hs : CallStep c l l') : Stands gone' l' l'.holder := by
  cases hs with
  | refused hh => exact h.mono hg rfl rfl
  | begun hh hw hd =>
      rw [hh] at h
      rcases h with ⟨-, ha, ho⟩ | ⟨s, hs, -⟩
      · exact ⟨rfl, ha, ho.mono hg rfl⟩
      · rw [hd] at hs
        cases hs
  | stopped hh hw hn =>
      rw [hh] at h
      rcases h with ⟨-, -, ho⟩ | ⟨s, -, ha, -⟩
      · show Stands gone' _ l.holder
        rw [hh]
        exact .inl ⟨rfl, rfl, ho.mono hg rfl⟩
      · rw [hn] at ha
        cases ha
  | stopping hh hw hn =>
      rw [hh] at h
      rcases h with ⟨-, ha, -⟩ | ⟨s, hs, ha, -, ho⟩
      · rw [hn] at ha
        cases ha
      · cases hn.symm.trans ha
        exact ⟨hs, rfl, ho.mono hg rfl⟩
  | unconnected hh =>
      rw [hh] at h
      obtain ⟨-, ha, ho⟩ := h
      exact .inl ⟨rfl, ha, ho.mono hg rfl⟩
  | connected hh =>
      rw [hh] at h
      obtain ⟨hst, -, ho⟩ := h
      refine ⟨hst, rfl, by simp, fun s hs hne => hg (ho s ?_ nofun)⟩
      have hv : s.val ≠ l.peers.length := by
        rintro hv
        exact hne (congrArg some (by rw [← hv]))
      simp only [List.length_append, List.length_singleton] at hs
      omega
  | pended hh =>
      rw [hh] at h
      obtain ⟨-, ha, hl, ho⟩ := h
      exact ⟨rfl, ha, hl, ho.mono hg rfl⟩
  | accepted hh =>
      rw [hh] at h
      obtain ⟨-, ha, hl, ho⟩ := h
      exact .inr ⟨_, rfl, ha, hl, ho.mono hg rfl⟩
  | rejected hh =>
      rw [hh] at h
      obtain ⟨hs, -, -, ho⟩ := h
      exact ⟨hs, rfl, ho.mono hg rfl⟩
  | gaveUp hh | closed hh =>
      rw [hh] at h
      obtain ⟨-, ha, ho⟩ := h
      exact .inl ⟨rfl, ha, ho.all hg (fun hs => he _ (ended_close l hs _)) rfl⟩

structure Attended (gone : Set SessionId) (l : Lifecycle) : Prop where
  stands : Stands gone l l.holder
  watched : ∀ m ∈ l.monitors, l.Watches m

theorem Attended.callStep (h : Attended gone l) (hg : gone ⊆ gone')
    (he : ∀ s, l'.Ended s → s ∈ gone') (hs : CallStep c l l') : Attended gone' l' := by
  refine ⟨h.stands.callStep hg he hs, fun m hm => ?_⟩
  have late {stage : Stage} (hh : l.holder = some stage) (hm : m ∈ l.monitors) :
      m.lifecycle < l.agent.lifecycle := (h.watched m hm).lt (by rw [hh]; simp)
  cases hs with
  | refused => exact h.watched m hm
  | begun | stopped | stopping => exact .inl (Nat.lt_succ_of_le (h.watched m hm).le)
  | unconnected hh | connected hh | pended hh | rejected hh | gaveUp hh | closed hh =>
      exact .inl (late hh hm)
  | @accepted s _ hh =>
      rcases List.mem_append.1 hm with hm | hm
      · exact .inl (late hh hm)
      · rw [List.mem_singleton.1 hm]
        have hst := h.stands
        rw [hh] at hst
        exact .inr ⟨rfl, rfl, .inl hst.2.1⟩

theorem Attended.monitor (h : Attended gone l) (hg : gone ⊆ gone') (hh : l.holder = none)
    (hm : m ∈ l.monitors) (he : l.Ended m.session → m.session ∈ gone')
    (hc : l.node.reporting.isClosed m.session = true) :
    Attended gone' { l with agent := l.agent.sessionEnded m, monitors := l.monitors.erase m } := by
  have rest {x : Monitor} (hx : x ∈ l.monitors.erase m) : l.Watches x :=
    h.watched x (List.mem_of_mem_erase hx)
  by_cases hl : m.lifecycle = l.agent.lifecycle
  · have ho : GoneBut gone' l none := by
      have hst := h.stands
      rw [hh] at hst
      rcases hst with ⟨-, -, ho⟩ | ⟨s, hs, ha, hn, ho⟩
      · exact ho.mono hg rfl
      · rcases h.watched m hm with hlt | ⟨-, -, hi | hd⟩
        · omega
        · cases ha.symm.trans hi
          exact ho.all hg (fun hs => he ⟨hs, hc⟩) rfl
        · rw [hs] at hd
          cases hd
    simp only [Agent.sessionEnded, hl, if_true]
    refine ⟨?_, fun x hx => (rest hx).imp_right fun hw => ⟨hw.1, hh, .inr rfl⟩⟩
    show Stands gone' _ l.holder
    rw [hh]
    exact .inl ⟨rfl, rfl, ho⟩
  · simp only [Agent.sessionEnded, hl, if_false]
    exact ⟨h.stands.mono hg rfl rfl, fun x hx => rest hx⟩

theorem Attended.moment (h : Attended gone l) (hm : Moment c l l') :
    Attended (gone ∪ {s | l'.Ended s}) l' := by
  have hg : gone ⊆ gone ∪ {s | l'.Ended s} := Set.subset_union_left
  cases hm with
  | ask | expect | work => exact ⟨h.stands.mono hg rfl rfl, h.watched⟩
  | call hs => exact h.callStep hg (fun s hs => .inr hs) (callStep_of_callStep? hs)
  | monitor hh hm hc => exact h.monitor hg hh hm .inr hc

theorem Course.attended {node : Node} (h : Course c node gone l) : Attended gone l := by
  induction h with
  | start => exact ⟨.inl ⟨rfl, rfl, nofun⟩, nofun⟩
  | next _ hm ih => exact ih.moment hm

theorem moment_of_move (h : Move c l l') : Moment c l l' := by
  cases h with
  | ask calls results events => exact .ask calls results events
  | expect p => exact .expect p
  | call hs => exact .call hs
  | monitor hh hm hc => exact .monitor hh hm hc
  | serve | report => exact .work _

theorem Course.runs {node : Node} (h : Course c node gone l) (hr : Runs c l l') :
    ∃ gone', Course c node gone' l' := by
  induction hr with
  | refl => exact ⟨gone, h⟩
  | tail _ hm ih =>
      obtain ⟨gone', h'⟩ := ih
      exact ⟨_, h'.next (moment_of_move hm)⟩

theorem Stands.next (h : Stands gone l l.holder) (hs : CallStep c l l') :
    l.agent.status.Next l'.agent.status := by
  cases hs with
  | refused | stopping | connected | rejected => exact .same _
  | begun hh hw hd =>
      rw [hd]
      exact .connecting
  | stopped | unconnected | gaveUp | closed => exact .lost _
  | pended hh =>
      rw [hh] at h
      rw [h.1]
      exact .setupPending
  | accepted hh =>
      rw [hh] at h
      rw [h.1]
      exact .active

theorem Attended.next (h : Attended gone l) (hm : Moment c l l') :
    l.agent.status.Next l'.agent.status := by
  cases hm with
  | ask | expect | work => exact .same _
  | call hs => exact h.stands.next (callStep_of_callStep? hs)
  | @monitor m =>
      by_cases hl : m.lifecycle = l.agent.lifecycle
      · simp only [Agent.sessionEnded, hl, if_true]
        exact .lost _
      · simp only [Agent.sessionEnded, hl, if_false]
        exact .same _

theorem callStep?_closes {s : SessionId} (h : l.closes? = some s) :
    ∃ l', callStep? c l = some l' ∧ l'.node.reporting.isClosed s = true ∧
      l'.events = l.events ++ [.close l.agent.status] := by
  have hc := Kpm.Reporting.isClosed_close l.node.reporting s
  rw [closes?] at h
  split at h
  · rename_i hh
    cases h
    exact ⟨(l.close s).2.finish _, by rw [callStep?, hh], hc, rfl⟩
  · rename_i hh
    cases h
    exact ⟨(l.close s).2.finish _, by rw [callStep?, hh], hc, rfl⟩
  · cases h

def Starting (l : Lifecycle) : Prop := ∃ stage, l.holder = some stage ∧ ∀ s, stage ≠ .closing s

theorem Stands.failed (h : Stands gone l l.holder) (hl : l.Starting) {e : RequestError}
    (hs : CallStep c l l') (hr : l'.results = l.results ++ [.error e]) :
    l'.holder = none ∧ l'.agent.status = .disconnected ∧ l'.agent.attached = none := by
  obtain ⟨stage, hst, hn⟩ := hl
  have more : l.results ≠ l.results ++ [.error e] := by simp
  cases hs with
  | refused hh | begun hh | stopped hh | stopping hh =>
      rw [hst] at hh
      cases hh
  | unconnected hh | gaveUp hh =>
      rw [hh] at h
      exact ⟨rfl, rfl, h.2.1⟩
  | connected | pended | rejected => exact absurd hr more
  | accepted => simp at hr
  | closed hh =>
      rw [hst] at hh
      exact absurd (Option.some.inj hh) (hn _)

theorem callStep?_start {rest : List Call} (hh : l.holder = none)
    (hw : l.waiting = .start :: rest) (hs : l.agent.status ≠ .disconnected) :
    callStep? c l = some { l with
      waiting := rest
      results := l.results ++
        [.error (.invalid s!"E2 agent is already {l.agent.status.text}")] } := by
  simp only [callStep?, hh, hw, acquire, Agent.beginStart, hs, if_false, finish]

/-- What can be said of an agent at any time, and of the next moment. -/
theorem one_session {node : Node} (h : Course c node gone l) :
    (l.holder = none →
      (l.agent.status = .active ∨ l.agent.status = .disconnected) ∧
      (l.agent.status = .active ↔ l.agent.attached.isSome = true) ∧
      (∀ s, l.agent.attached = some s → s.val + 1 = l.peers.length) ∧
      ∀ s, s.val < l.peers.length → l.agent.attached ≠ some s → s ∈ gone) ∧
    (∀ l', Moment c l l' → l.agent.status.Next l'.agent.status) ∧
    (∀ s, l.closes? = some s → ∃ l', callStep? c l = some l' ∧
      l'.node.reporting.isClosed s = true ∧
        l'.events = l.events ++ [.close l.agent.status]) ∧
    (∀ rest, l.holder = none → l.waiting = .start :: rest → l.agent.status ≠ .disconnected →
      callStep? c l = some { l with
        waiting := rest
        results := l.results ++
          [.error (.invalid s!"E2 agent is already {l.agent.status.text}")] }) ∧
    ∀ l' e, l.Starting → callStep? c l = some l' → l'.results = l.results ++ [.error e] →
      l'.holder = none ∧ l'.agent.status = .disconnected ∧ l'.agent.attached = none := by
  have ha := h.attended
  refine ⟨fun hh => ?_, fun _ hm => ha.next hm, fun _ => callStep?_closes,
    fun _ hh hw hs => callStep?_start hh hw hs,
    fun l' e hl hs hr => ha.stands.failed hl (callStep_of_callStep? hs) hr⟩
  have hst := ha.stands
  rw [hh] at hst
  rcases hst with ⟨hs, hn, ho⟩ | ⟨s, hs, hn, hl, ho⟩
  · rw [hs, hn]
    exact ⟨.inr rfl, by simp, nofun, ho⟩
  · rw [hs, hn]
    refine ⟨.inl rfl, by simp, ?_, ho⟩
    rintro s' hs'
    cases hs'
    exact hl

theorem one_session_after_refusal :
    let k : Kpm.Service := ⟨⟨⟨1⟩, ⟨⟨1, 3, 8⟩, ⟨4, 2, 6⟩, 3⟩⟩, .standard, []⟩
    let c : AgentConfig :=
      ⟨k.node, "127.0.0.1:36421", ⟨[Node.kpm k], List.pairwise_singleton _ _⟩, k⟩
    let refusing : Peer := { Peer.plain with
      setup := some (.ok (.failure ⟨.misc .unspecified⟩))
      closeError := some (.io "broken pipe") }
    let l₀ : Lifecycle := begin ⟨.start .empty 0, []⟩
    let l₁ := ({ l₀ with peer := refusing }.perform c [.start]).2
    let l := ({ l₁ with peer := .plain }.perform c [.start]).2
    ∃ gone, Course c ⟨.start .empty 0, []⟩ gone l ∧ l.holder = none ∧ l.peers.length = 2 ∧
      l.agent.status = .active ∧ l.agent.attached = some ⟨1⟩ ∧ ⟨0⟩ ∈ gone := by
  intro k c refusing l₀ l₁ l
  have hr : Runs c l₀ l :=
    .trans (.head (.expect _ refusing) (perform_runs c [.start] _))
      (.head (.expect _ .plain) (perform_runs c [.start] _))
  obtain ⟨gone, hc⟩ := Course.start.runs hr
  have hh : l.holder.isNone = true := by decide +kernel
  have hp : l.peers.length = 2 := by decide +kernel
  have ha : l.agent.attached = some ⟨1⟩ := by decide +kernel
  obtain ⟨-, hs, -, hg⟩ := (one_session hc).1 (Option.isNone_iff_eq_none.1 hh)
  refine ⟨gone, hc, Option.isNone_iff_eq_none.1 hh, hp, ?_, ha, hg ⟨0⟩ (by rw [hp]; decide) ?_⟩
  · exact hs.2 (by rw [ha]; rfl)
  · rw [ha]
    decide

end E2Node.Lifecycle
