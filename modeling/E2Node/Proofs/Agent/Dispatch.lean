import E2Node.Procedure.Script
import E2Node.Proofs.Agent.Runs
import E2Node.Proofs.Model.Registry

namespace E2Node

inductive Inbound
  | subscription (r : SubscriptionRequest)
  | delete (r : SubscriptionDeleteRequest)
  | control (r : ControlRequest)

namespace Inbound

def function : Inbound → RanFunctionId
  | subscription r => r.function
  | delete r => r.function
  | control r => r.function

def operation : Inbound → Operation
  | subscription _ => .subscription
  | delete _ => .delete
  | control _ => .control

def Outcome : Inbound → Type
  | subscription _ => SubscriptionOutcome
  | delete _ => DeleteOutcome
  | control _ => ControlOutcome

def Ready (q : Inbound) (attached : Option SessionId) : Prop :=
  q.operation = .subscription → attached.isSome = true

instance (q : Inbound) (attached : Option SessionId) : Decidable (q.Ready attached) :=
  inferInstanceAs (Decidable (_ → _))

end Inbound

variable {σ : Type} {n : Nat} {m : ServiceModel σ} {ms : List (ServiceModel σ)}

def Handler.answer (h : Handler σ) : (q : Inbound) → σ → Except RequestError q.Outcome × σ
  | .subscription r => h.subscription r
  | .delete r => h.delete r
  | .control r => h.control r

namespace ServiceModel

def answer (m : ServiceModel σ) (attached : Option SessionId) :
    (q : Inbound) → σ → Except RequestError q.Outcome × σ
  | .subscription r, s =>
      match attached with
      | none => (.error ModelRegistry.noSession, s)
      | some session => m.subscription session r s
  | .delete r, s => m.delete r s
  | .control r, s => m.control r s

/-- The same model, which notes under a number what it is asked for. -/
def noting (n : Nat) (m : ServiceModel σ) : ServiceModel (List (Nat × Operation) × σ) where
  function := m.function
  subscription session r s :=
    let a := m.subscription session r s.2
    (a.1, s.1 ++ [(n, .subscription)], a.2)
  delete r s :=
    let a := m.delete r s.2
    (a.1, s.1 ++ [(n, .delete)], a.2)
  control r s :=
    let a := m.control r s.2
    (a.1, s.1 ++ [(n, .control)], a.2)
  update u s :=
    let a := m.update u s.2
    (a.1, s.1 ++ [(n, .update)], a.2)

def noted (ms : List (ServiceModel σ)) : List (ServiceModel (List (Nat × Operation) × σ)) :=
  ms.mapIdx noting

theorem map_id_noted (ms : List (ServiceModel σ)) : (noted ms).map id = ms.map id := by
  refine List.ext_getElem? fun i => ?_
  simp only [noted, List.getElem?_map, List.getElem?_mapIdx, Option.map_map]
  rfl

theorem noting_answer (n : Nat) (m : ServiceModel σ) (attached : Option SessionId) (q : Inbound)
    (log : List (Nat × Operation)) (s : σ) :
    (m.noting n).answer attached q (log, s) = ((m.answer attached q s).1,
      log ++ (if q.Ready attached then [(n, q.operation)] else []),
      (m.answer attached q s).2) := by
  cases q with
  | subscription r =>
      cases attached with
      | none =>
          rw [if_neg (by simp [Inbound.Ready, Inbound.operation]), List.append_nil]
          rfl
      | some session =>
          have hr : (Inbound.subscription r).Ready (some session) := fun _ => rfl
          rw [if_pos hr]
          rfl
  | delete r | control r =>
      rw [if_pos nofun]
      rfl

theorem answer_not_ready {attached : Option SessionId} {q : Inbound} (h : ¬ q.Ready attached)
    (s : σ) : m.answer attached q s = (.error ModelRegistry.noSession, s) := by
  cases q with
  | subscription r =>
      cases attached with
      | none => rfl
      | some session => exact absurd (fun _ => rfl) h
  | delete r | control r => exact absurd nofun h

end ServiceModel

namespace ModelRegistry

open ServiceModel

theorem keptAt_noted {x : ServiceModel (List (Nat × Operation) × σ)} :
    KeptAt (noted ms) n x ↔ ∃ m, KeptAt ms n m ∧ m.noting n = x := by
  have ht : ((noted ms).take n).map ServiceModel.id = (ms.take n).map ServiceModel.id := by
    rw [List.map_take, map_id_noted, ← List.map_take]
  simp only [KeptAt, ht]
  rw [noted, List.getElem?_mapIdx, Option.map_eq_some_iff]
  constructor
  · rintro ⟨⟨m, hm, rfl⟩, hb⟩
    exact ⟨m, ⟨hm, hb⟩, rfl⟩
  · rintro ⟨m, ⟨hm, hb⟩, rfl⟩
    exact ⟨⟨m, hm, rfl⟩, hb⟩

variable {models : ModelRegistry σ} {attached : Option SessionId} {q : Inbound} {s : σ}

theorem answer_of_none (h : models.get? q.function = none) :
    (models.handler attached).answer q s = (.error (notSupported q.function), s) := by
  cases q with
  | subscription r | delete r | control r =>
      have h : models.get? r.function = none := h
      simp only [Handler.answer, handler, subscription, delete, control, h]
      rfl

theorem answer_of_some (h : models.get? q.function = some m) :
    (models.handler attached).answer q s = m.answer attached q s := by
  cases q with
  | subscription r | delete r | control r =>
      have h : models.get? r.function = some m := h
      simp only [Handler.answer, handler, subscription, delete, control, h]
      rfl

theorem answer_noted (attached : Option SessionId) (q : Inbound) (log : List (Nat × Operation))
    (s : σ) : ∃ calls, (calls.length ≤ 1 ∧ ∀ n o, (n, o) ∈ calls ↔
        o = q.operation ∧ (∃ m, KeptAt ms n m ∧ m.id = q.function) ∧ q.Ready attached) ∧
      ((registered (noted ms)).handler attached).answer q (log, s) =
        ((((registered ms).handler attached).answer q s).1, log ++ calls,
          (((registered ms).handler attached).answer q s).2) := by
  cases hf : (registered ms).get? q.function with
  | none =>
      have hk : ∀ n m, KeptAt ms n m → m.id ≠ q.function := fun n m hk he => by
        rw [get?_registered_eq_some_iff.2 ⟨n, hk, he⟩] at hf
        cases hf
      have hn : (registered (noted ms)).get? q.function = none := by
        refine Option.eq_none_iff_forall_ne_some.2 fun x hx => ?_
        obtain ⟨n, hk', he⟩ := get?_registered_eq_some_iff.1 hx
        obtain ⟨m, hm, rfl⟩ := keptAt_noted.1 hk'
        exact hk n m hm he
      refine ⟨[], ⟨Nat.zero_le 1, fun n o => ⟨nofun, ?_⟩⟩, ?_⟩
      · rintro ⟨-, ⟨m, hm, he⟩, -⟩
        exact absurd he (hk n m hm)
      · rw [answer_of_none hf, answer_of_none hn, List.append_nil]
  | some m =>
      obtain ⟨n, hm, he⟩ := get?_registered_eq_some_iff.1 hf
      have hn : (registered (noted ms)).get? q.function = some (m.noting n) :=
        get?_registered_eq_some_iff.2 ⟨n, keptAt_noted.2 ⟨m, hm, rfl⟩, he⟩
      refine ⟨if q.Ready attached then [(n, q.operation)] else [], ⟨?_, fun n' o => ?_⟩, ?_⟩
      · split <;> simp
      · constructor
        · intro hc
          split at hc
          · cases List.mem_singleton.1 hc
            exact ⟨rfl, ⟨m, hm, he⟩, ‹_›⟩
          · cases hc
        · rintro ⟨rfl, ⟨m', hm', he'⟩, hr⟩
          obtain ⟨rfl, -⟩ := hm.unique hm' (he.trans he'.symm)
          rw [if_pos hr]
          exact List.mem_singleton.2 rfl
      · rw [answer_of_some hf, answer_of_some hn, noting_answer]

end ModelRegistry

namespace Lifecycle

variable {c : AgentConfig} {l l' : Lifecycle}

/-- What an agent goes through, with any peers and whatever becomes of its node in between. -/
inductive Used (c : AgentConfig) (node : Node) : Lifecycle → Prop
  | begin : Used c node (begin node)
  | ask {l : Lifecycle} (h : Used c node l) (calls : List Call) :
      Used c node { l with waiting := calls, results := [] }
  | expect {l : Lifecycle} (h : Used c node l) (p : Peer) : Used c node { l with peer := p }
  | work {l : Lifecycle} (h : Used c node l) (node' : Node) : Used c node { l with node := node' }
  | forget {l : Lifecycle} (h : Used c node l) : Used c node { l with events := [] }
  | call {l l' : Lifecycle} (h : Used c node l) (hs : callStep? c l = some l') : Used c node l'
  | monitor {l l' : Lifecycle} (h : Used c node l) (hs : l.monitorStep? = some l') : Used c node l'

def Announces (c : AgentConfig) (events : List AgentEvent) : Prop :=
  ∀ status r, .setup status r ∈ events → r = request c

theorem announces_append {es fs : List AgentEvent} :
    Announces c (es ++ fs) ↔ Announces c es ∧ Announces c fs := by
  simp only [Announces, List.mem_append, or_imp, forall_and]

theorem announces_cons {e : AgentEvent} {es : List AgentEvent} : Announces c (e :: es) ↔
    (∀ status r, .setup status r = e → r = request c) ∧ Announces c es := by
  simp only [Announces, List.mem_cons, or_imp, forall_and]

theorem announces_nil : Announces c [] := nofun

theorem connect_events (l : Lifecycle) : (connect c l).events = l.events := by
  rw [connect]
  split
  · rfl
  · rfl

theorem beginSetup_events (l : Lifecycle) (s : SessionId) : ∃ early, Announces c early ∧
    (beginSetup c l s).events = l.events ++ .setup .setupPending (request c) :: early := by
  rw [beginSetup]
  split
  · exact ⟨[], announces_nil, rfl⟩
  · refine ⟨_, ?_, List.append_assoc l.events [.setup .setupPending (request c)] [.earlyReply _]⟩
    exact announces_cons.2 ⟨by simp, announces_nil⟩

theorem acquire_events (l : Lifecycle) (call : Call) :
    ∃ es, Announces c es ∧ (acquire c l call).events = l.events ++ es := by
  cases call with
  | start =>
      cases hb : l.agent.beginStart with
      | error e => exact ⟨[], announces_nil, by simp [acquire, hb, finish]⟩
      | ok a =>
          refine ⟨[.connect a.status c.address], announces_cons.2 ⟨by simp, announces_nil⟩, ?_⟩
          simp [acquire, hb, log]
  | stop =>
      refine ⟨[], announces_nil, ?_⟩
      cases ha : l.agent.attached with
      | none => simp [acquire, Agent.beginStop, ha, finish]
      | some s => simp [acquire, Agent.beginStop, ha]

theorem callStep_events (hs : callStep? c l = some l') :
    ∃ es, Announces c es ∧ l'.events = l.events ++ es := by
  rw [callStep?] at hs
  split at hs
  · split at hs
    · cases hs
    · rename_i call rest _
      cases hs
      exact acquire_events { l with waiting := rest } call
  · cases hs
    exact ⟨[], announces_nil, (connect_events l).trans (List.append_nil _).symm⟩
  · rename_i s _
    cases hs
    obtain ⟨early, ha, hc⟩ := beginSetup_events (c := c) l s
    refine ⟨_, announces_cons.2 ⟨fun status r hr => ?_, ha⟩, hc⟩
    cases hr
    rfl
  · split at hs
    · cases hs
      refine ⟨[], announces_nil, ?_⟩
      rw [setUp]
      split <;> exact (List.append_nil _).symm
    · cases hs
  · cases hs
    exact ⟨[.close l.agent.status], announces_cons.2 ⟨by simp, announces_nil⟩, rfl⟩
  · cases hs
    exact ⟨[.close l.agent.status], announces_cons.2 ⟨by simp, announces_nil⟩, rfl⟩

theorem Used.announces {node : Node} (h : Used c node l) : Announces c l.events := by
  induction h with
  | begin => exact announces_nil
  | ask h calls ih => exact ih
  | expect h p ih => exact ih
  | work h node ih => exact ih
  | forget h ih => exact announces_nil
  | call h hs ih =>
      obtain ⟨es, he, hl⟩ := callStep_events hs
      exact hl ▸ announces_append.2 ⟨ih, he⟩
  | monitor h hs ih =>
      obtain ⟨-, m, -, -, rfl⟩ := monitorStep?_eq_some hs
      exact ih

end Lifecycle

open ModelRegistry Lifecycle

theorem announced_iff_served (ms : List (ServiceModel σ)) :
    (∀ (before : List (ServiceModel σ)) (m : ServiceModel σ),
      if m.id ∈ before.map ServiceModel.id then
        (registered before).register m =
            .error (.invalid s!"RAN function {m.id.text} is already registered") ∧
          registered (before ++ [m]) = registered before
      else (registered before).register m = .ok (registered (before ++ [m]))) ∧
    (∀ id m, (registered ms).get? id = some m ↔ ∃ n, KeptAt ms n m ∧ m.id = id) ∧
    ((registered ms).announced.Pairwise (fun a b => a.id.val < b.id.val) ∧
      ∀ item, item ∈ (registered ms).announced ↔ ∃ n m, KeptAt ms n m ∧ m.function.item = item) ∧
    (∀ ms', ms.Perm ms' → (ms.map ServiceModel.id).Nodup →
      (registered ms).announced = (registered ms').announced) ∧
    (∀ (a : Agent) (q : Inbound) (log : List (Nat × Operation)) (s : σ),
      let answer := ((registered ms).handler a.attached).answer q s
      (∃ calls, (calls.length ≤ 1 ∧ ∀ n o, (n, o) ∈ calls ↔ o = q.operation ∧
            (∃ m, KeptAt ms n m ∧ m.id = q.function) ∧ q.Ready a.attached) ∧
          ((registered (ServiceModel.noted ms)).handler a.attached).answer q (log, s) =
            (answer.1, log ++ calls, answer.2)) ∧
        (q.function ∉ (registered ms).announced.map RanFunctionItem.id → answer =
          (.error (.notSupported s!"RAN function {q.function.text} is not supported"), s)) ∧
        (q.function ∈ (registered ms).announced.map RanFunctionItem.id → ¬ q.Ready a.attached →
          answer = (.error (.unknown "no active E2 session"), s))) ∧
    ∀ (c : AgentConfig) (ns : List (ServiceModel Node)), c.models = registered ns →
      ∀ (node : Node) (l : Lifecycle), Used c node l →
        (∀ status r, .setup status r ∈ l.events → r.functions = (registered ns).announced) ∧
        (l.holder = some .connecting → l.peer.connectError = none →
          ∃ l' s, callStep? c l = some l' ∧ l'.holder = some (.attached s)) ∧
        (∀ s, l.holder = some (.attached s) → ∃ l' status r early, callStep? c l = some l' ∧
          l'.events = l.events ++ .setup status r :: early ∧
            r.functions = (registered ns).announced) := by
  refine ⟨register_registered, fun _ _ => get?_registered_eq_some_iff,
    ⟨announced_ascending _, fun _ => mem_announced_registered⟩,
    fun ms' hp hn => by rw [registered_perm hp hn], fun a q log s => ⟨?_, ?_, ?_⟩, ?_⟩
  · exact answer_noted a.attached q log s
  · intro h
    exact answer_of_none (not_not.1 fun hn => h (mem_announced_ids.2 hn))
  · intro h hr
    obtain ⟨m, hm⟩ := Option.ne_none_iff_exists'.1 (mem_announced_ids.1 h)
    rw [answer_of_some hm, ServiceModel.answer_not_ready hr]
    rfl
  · intro c ns hc node l hu
    refine ⟨fun status r hr => ?_, fun hh he => ?_, fun s hh => ?_⟩
    · rw [hu.announces status r hr, request, hc]
    · refine ⟨connect c l, ⟨l.peers.length⟩, by rw [callStep?, hh], ?_⟩
      simp only [connect, he]
    · obtain ⟨early, -, hl⟩ := beginSetup_events (c := c) l s
      exact ⟨_, _, _, early, by rw [callStep?, hh], hl, by rw [request, hc]⟩

theorem second_model_unreached :
    let f (id : UInt16) : RanFunction := ⟨⟨id⟩, "counts", 1, "1.3", "1", []⟩
    let m (place : Nat) (id : UInt16) : ServiceModel Node := Node.tally place (f id)
    let ms := [m 0 2, m 1 1, m 2 1]
    let k : Kpm.Service := ⟨⟨⟨1⟩, ⟨⟨1, 3, 8⟩, ⟨4, 2, 6⟩, 3⟩⟩, .standard, []⟩
    let c : AgentConfig := ⟨k.node, "127.0.0.1:36421", registered ms, k⟩
    let l : Lifecycle := begin ⟨.start .empty 0, []⟩
    let called := (acquire c { l with waiting := [], results := [] } .start)
    (registered [m 0 2, m 1 1]).register (m 2 1) =
        .error (.invalid "RAN function 1 is already registered") ∧
      (registered [m 0 2, m 1 1]).announced = (registered [m 1 1, m 0 2]).announced ∧
      (∀ (r : ControlRequest) (n : Node), r.function = ⟨1⟩ →
        (((registered (ServiceModel.noted ms)).handler none).answer (.control r) ([], n)).2.1 =
          [(1, .control)]) ∧
      (∀ (r : SubscriptionRequest) (n : Node), r.function = ⟨3⟩ →
        ((registered ms).handler none).answer (.subscription r) n =
          (.error (.notSupported "RAN function 3 is not supported"), n)) ∧
      (∀ (r : SubscriptionRequest) (n : Node), r.function = ⟨2⟩ →
        ((registered ms).handler none).answer (.subscription r) n =
          (.error (.unknown "no active E2 session"), n)) ∧
      ∃ l₁ s l₂ status r early, callStep? c called = some l₁ ∧ l₁.holder = some (.attached s) ∧
        callStep? c l₁ = some l₂ ∧ l₂.events = l₁.events ++ .setup status r :: early ∧
        r.functions = [(f 1).item, (f 2).item] := by
  intro f m ms k c l called
  have hids : (registered ms).announced.map RanFunctionItem.id = [⟨1⟩, ⟨2⟩] := by decide +kernel
  obtain ⟨-, -, -, -, hq, hs⟩ := announced_iff_served ms
  refine ⟨?_, ?_, fun r n hr => ?_, fun r n hr => ?_, fun r n hr => ?_, ?_⟩
  · have h := (announced_iff_served ms).1 [m 0 2, m 1 1] (m 2 1)
    rw [if_pos (by decide +kernel)] at h
    have ht : s!"RAN function {(m 2 1).id.text} is already registered" =
        "RAN function 1 is already registered" := by decide +kernel
    rw [h.1, ht]
  · exact (announced_iff_served [m 0 2, m 1 1]).2.2.2.1 _ (.swap ..) (by decide +kernel)
  · obtain ⟨⟨calls, ⟨hl, hc⟩, ha⟩, -⟩ := hq .idle (.control r) [] n
    have hm : (1, .control) ∈ calls := by
      refine (hc 1 .control).2 ⟨rfl, ⟨m 1 1, ⟨rfl, ?_⟩, hr.symm⟩, nofun⟩
      decide +kernel
    have he : calls = [(1, .control)] := by
      match calls, hl, hm with
      | [x], _, hm => rw [List.mem_singleton.1 hm]
    show (((registered (ServiceModel.noted ms)).handler Agent.idle.attached).answer _ _).2.1 = _
    rw [ha, he]
    rfl
  · have hr : (Inbound.subscription r).function = ⟨3⟩ := hr
    have ht : s!"RAN function {(Inbound.subscription r).function.text} is not supported" =
        "RAN function 3 is not supported" := by
      rw [hr]
      decide +kernel
    have h := (hq .idle (.subscription r) [] n).2.1 (by rw [hids, hr]; decide)
    rw [ht] at h
    exact h
  · have hr : (Inbound.subscription r).function = ⟨2⟩ := hr
    exact (hq .idle (.subscription r) [] n).2.2 (by rw [hids, hr]; decide) fun h => nomatch h rfl
  · have hu : Used c ⟨.start .empty 0, []⟩ called :=
      .call (.ask .begin [.start]) rfl
    obtain ⟨l₁, s, h₁, hh⟩ := (hs c ms rfl _ called hu).2.1 rfl rfl
    obtain ⟨l₂, status, r, early, h₂, he, hf⟩ := (hs c ms rfl _ l₁ (hu.call h₁)).2.2 s hh
    exact ⟨l₁, s, l₂, status, r, early, h₁, hh, h₂, he, hf.trans (by decide +kernel)⟩

end E2Node
