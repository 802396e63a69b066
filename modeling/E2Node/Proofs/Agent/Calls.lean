import E2Node.Agent.Lifecycle

namespace E2Node

inductive AgentStatus.Next : AgentStatus → AgentStatus → Prop
  | same (s) : Next s s
  | lost (s) : Next s .disconnected
  | connecting : Next .disconnected .connecting
  | setupPending : Next .connecting .setupPending
  | active : Next .setupPending .active

namespace Lifecycle

variable {c : AgentConfig} {l l' : Lifecycle}

/-- Everything that one moment of a call can do. -/
inductive CallStep (c : AgentConfig) (l : Lifecycle) : Lifecycle → Prop
  | refused {rest} (hh : l.holder = none) (hw : l.waiting = .start :: rest)
      (hs : l.agent.status ≠ .disconnected) : CallStep c l { l with
        waiting := rest
        results := l.results ++ [.error (.invalid s!"E2 agent is already {l.agent.status.text}")] }
  | begun {rest events} (hh : l.holder = none) (hw : l.waiting = .start :: rest)
      (hs : l.agent.status = .disconnected) : CallStep c l { l with
        waiting := rest
        agent := ⟨.connecting, l.agent.attached, l.agent.lifecycle + 1⟩
        holder := some .connecting
        events := events }
  | stopped {rest results} (hh : l.holder = none) (hw : l.waiting = .stop :: rest)
      (ha : l.agent.attached = none) : CallStep c l { l with
        waiting := rest
        agent := ⟨.disconnected, none, l.agent.lifecycle + 1⟩
        results := results }
  | stopping {rest s} (hh : l.holder = none) (hw : l.waiting = .stop :: rest)
      (ha : l.agent.attached = some s) : CallStep c l { l with
        waiting := rest
        agent := ⟨l.agent.status, none, l.agent.lifecycle + 1⟩
        holder := some (.closing s) }
  | unconnected {results} (hh : l.holder = some .connecting) : CallStep c l { l with
      agent := l.agent.disconnect
      holder := none
      results := results }
  | connected {node} (hh : l.holder = some .connecting) : CallStep c l { l with
      agent := l.agent.attach ⟨l.peers.length⟩
      node := node
      peers := l.peers ++ [l.peer]
      holder := some (.attached ⟨l.peers.length⟩) }
  | pended {s answered node events} (hh : l.holder = some (.attached s)) : CallStep c l { l with
      agent := l.agent.awaitSetup
      node := node
      holder := some (.settingUp s answered)
      events := events }
  | accepted {s answered} (hh : l.holder = some (.settingUp s answered)) : CallStep c l { l with
      agent := l.agent.activate
      holder := none
      monitors := l.monitors ++ [l.agent.monitor s]
      results := l.results ++ [.ok ()] }
  | rejected {s answered e} (hh : l.holder = some (.settingUp s answered)) : CallStep c l { l with
      agent := l.agent.detach
      holder := some (.givingUp s e) }
  | gaveUp {s e} (hh : l.holder = some (.givingUp s e)) :
      CallStep c l ((l.close s).2.finish (.error e))
  | closed {s r} (hh : l.holder = some (.closing s)) : CallStep c l ((l.close s).2.finish r)

theorem acquire_cases {call : Call} {rest : List Call} (hh : l.holder = none)
    (hw : l.waiting = call :: rest) : CallStep c l (acquire c { l with waiting := rest } call) := by
  cases call with
  | start =>
      by_cases hs : l.agent.status = .disconnected
      · simp only [acquire, Agent.beginStart, hs, if_true]
        exact .begun hh hw hs
      · simp only [acquire, Agent.beginStart, hs, if_false, finish]
        rw [← hh]
        exact .refused hh hw hs
  | stop =>
      cases ha : l.agent.attached with
      | none =>
          simp only [acquire, Agent.beginStop, ha, finish]
          exact hh ▸ .stopped hh hw ha
      | some s =>
          simp only [acquire, Agent.beginStop, ha]
          exact .stopping hh hw ha

theorem connect_cases (hh : l.holder = some .connecting) : CallStep c l (connect c l) := by
  rw [connect]
  split
  · exact .unconnected hh
  · exact .connected hh

theorem beginSetup_cases {s : SessionId} (hh : l.holder = some (.attached s)) :
    CallStep c l (beginSetup c l s) := by
  rw [beginSetup]
  split
  · exact .pended hh
  · exact .pended hh

theorem setUp_cases {s : SessionId} {answered : Nat} (hh : l.holder = some (.settingUp s answered)) :
    CallStep c l (setUp c l s) := by
  rw [setUp]
  split
  · exact .accepted hh
  · exact .rejected hh

theorem callStep_of_callStep? (h : callStep? c l = some l') : CallStep c l l' := by
  rw [callStep?] at h
  split at h
  · rename_i hh
    split at h
    · cases h
    · cases h
      exact acquire_cases hh ‹_›
  · cases h
    exact connect_cases ‹_›
  · cases h
    exact beginSetup_cases ‹_›
  · split at h
    · cases h
      exact setUp_cases ‹_›
    · cases h
  · cases h
    exact .gaveUp ‹_›
  · cases h
    exact .closed ‹_›

end Lifecycle

end E2Node
