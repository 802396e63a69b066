import E2Node.Proofs.Agent.Attachment
import E2Node.Proofs.Kpm.Attribution

namespace E2Node

structure PendingRequest where
  session : SessionId
  request : SubscriptionRequest
  found : Option (Option SessionId × Nat)

/-- An agent with the requests that it has yet to serve, and the entries that delete requests have
taken and whose tickers they have yet to stop. -/
structure Intake where
  life : Lifecycle
  requests : List PendingRequest
  deleting : List Subscription

namespace Intake

inductive Event
  | read (s : SessionId)
  | looked (s : SessionId) (found : Option SessionId) (n : Nat)
  | served (s : SessionId) (found : Option SessionId) (n : Nat) (i : Option TickerId)
  | other
  deriving DecidableEq

def start (node : Node) : Intake := ⟨.begin node, [], []⟩

def overlap (c : Intake) : Kpm.Overlap := ⟨c.life.node.reporting, c.deleting⟩

def ticker? (next : TickerId) : Except RequestError SubscriptionOutcome → Option TickerId
  | .ok (.success _) => some next
  | _ => none

/-- One step of an agent's calls and monitors, of a request's task, or of the node's reporting, in
which requests are deleted and reports are sent. -/
inductive Happens (cfg : AgentConfig) (c : Intake) : Event → Intake → Prop
  | asks (calls) (results) (events) : Happens cfg c .other
      { c with life := { c.life with waiting := calls, results := results, events := events } }
  | expects (p : Peer) (hp : p.earlyRequest = none) :
      Happens cfg c .other { c with life := { c.life with peer := p } }
  | calls {l} (h : Lifecycle.callStep? cfg c.life = some l) :
      Happens cfg c .other { c with life := l }
  | ends {m} (hh : c.life.holder = none) (hm : m ∈ c.life.monitors)
      (hc : c.life.node.reporting.isClosed m.session = true) :
      Happens cfg c .other { c with life := { c.life with
        agent := c.life.agent.sessionEnded m, monitors := c.life.monitors.erase m } }
  | works {e o} (h : c.overlap.Happens e o) (he : e.admission? = none) :
      Happens cfg c .other
        { c with life := c.life.modifyReporting fun _ => o.reporting, deleting := o.deleting }
  | reads {s} (r : SubscriptionRequest) (hs : s.val < c.life.peers.length) :
      Happens cfg c (.read s) { c with requests := ⟨s, r, none⟩ :: c.requests }
  | looks {before s r after} (ht : c.requests = before ++ ⟨s, r, none⟩ :: after) :
      Happens cfg c (.looked s c.life.agent.attached c.life.peers.length) { c with
        requests :=
          before ++ ⟨s, r, some (c.life.agent.attached, c.life.peers.length)⟩ :: after }
  | serves {before s r found n after}
      (ht : c.requests = before ++ ⟨s, r, some (found, n)⟩ :: after) :
      Happens cfg c (.served s found n (ticker? c.life.node.reporting.tickers.next
          (cfg.models.subscription found r c.life.node).1)) { c with
        life := { c.life with node := (cfg.models.subscription found r c.life.node).2 }
        requests := before ++ after }

inductive Course (cfg : AgentConfig) (c : Intake) : List Event → Intake → Prop
  | refl : Course cfg c [] c
  | tail {es e d d'} (h : Course cfg c es d) (hh : Happens cfg d e d') :
      Course cfg c (es ++ [e]) d'

def Event.ticker? : Event → Option TickerId
  | .served _ _ _ i => i
  | _ => none

def tickers (es : List Event) : List TickerId := es.filterMap Event.ticker?

variable {cfg : AgentConfig} {c c' : Intake} {es : List Event} {e : Event} {s on : SessionId}
  {found : Option SessionId} {n : Nat} {i : Option TickerId} {key : SubscriptionKey}
  {u : Subscription} {l l' : Lifecycle} {node : Node}

theorem Course.trans {d : Intake} {fs : List Event} (h : Course cfg c es c')
    (h' : Course cfg c' fs d) : Course cfg c (es ++ fs) d := by
  induction h' with
  | refl => rwa [List.append_nil]
  | tail _ hh ih =>
      rw [← List.append_assoc]
      exact ih.tail hh

theorem run_course (cfg : AgentConfig) (n : Nat) (c : Intake) :
    ∃ es, Course cfg c es { c with life := c.life.run cfg n } := by
  refine Lifecycle.run_keeps (P := fun l => ∃ es, Course cfg c es { c with life := l })
    (fun l l' h hs => ?_) (fun l l' h he => ?_) n ⟨[], .refl⟩
  · obtain ⟨es, h⟩ := h
    exact ⟨_, h.tail (.calls hs)⟩
  · obtain ⟨es, h⟩ := h
    obtain ⟨hh, m, hm, hc, rfl⟩ := Lifecycle.monitorStep?_eq_some he
    exact ⟨_, h.tail (.ends hh hm hc)⟩

theorem call_course (cfg : AgentConfig) (calls : List Call) (n : Nat) (c : Intake) :
    ∃ es, Course cfg c es
      { c with life := Lifecycle.run cfg n { c.life with waiting := calls } } := by
  obtain ⟨es, h⟩ := run_course cfg n { c with life := { c.life with waiting := calls } }
  exact ⟨_, (Course.refl.tail (.asks calls c.life.results c.life.events)).trans h⟩

theorem serve_course (cfg : AgentConfig) {c : Intake} (hs : s.val < c.life.peers.length)
    (r : SubscriptionRequest) : Course cfg c
      [.read s, .looked s c.life.agent.attached c.life.peers.length,
        .served s c.life.agent.attached c.life.peers.length
          (ticker? c.life.node.reporting.tickers.next
            (cfg.models.subscription c.life.agent.attached r c.life.node).1)]
      { c with life := (c.life.serve cfg (.subscriptionRequest r)).2 } :=
  ((Course.refl.tail (.reads r hs)).tail (@Happens.looks _ _ [] _ _ _ rfl)).tail
    (@Happens.serves _ _ [] _ _ _ _ _ rfl)

theorem attached_last {gone : Set SessionId} (h : Lifecycle.Stands gone l l.holder)
    (ha : l.agent.attached = some s) : s.val + 1 = l.peers.length := by
  cases hh : l.holder with
  | none =>
      rw [hh] at h
      rcases h with ⟨-, hn, -⟩ | ⟨s', -, hs, hl, -⟩
      · simp [hn] at ha
      · cases ha.symm.trans hs
        exact hl
  | some stage =>
      rw [hh] at h
      cases stage with
      | connecting | givingUp | closing => simp [h.2.1] at ha
      | attached | settingUp =>
          cases ha.symm.trans h.2.1
          exact h.2.2.1

structure Quiet (l : Lifecycle) : Prop where
  peer : l.peer.earlyRequest = none
  peers : ∀ p ∈ l.peers, p.earlyRequest = none

theorem Quiet.begin (node : Node) : Quiet (.begin node) :=
  ⟨rfl, List.forall_mem_nil _⟩

theorem Quiet.peerOf (h : Quiet l) (s : SessionId) : (l.peerOf s).earlyRequest = none := by
  rw [Lifecycle.peerOf, List.getD_eq_getElem?_getD]
  cases hp : l.peers[s.val]? with
  | none => rfl
  | some p => exact h.peers p (List.mem_of_getElem? hp)

theorem Quiet.callStep (h : Quiet l) (hs : Lifecycle.CallStep cfg l l') : Quiet l' := by
  cases hs with
  | connected =>
      refine ⟨h.peer, List.forall_mem_append.2 ⟨h.peers, ?_⟩⟩
      exact List.forall_mem_singleton.2 h.peer
  | refused | begun | stopped | stopping | unconnected | pended | accepted | rejected | gaveUp
  | closed => exact ⟨h.peer, h.peers⟩

theorem length_peers_le (h : Lifecycle.CallStep cfg l l') : l.peers.length ≤ l'.peers.length := by
  cases h with
  | connected => simp
  | refused | begun | stopped | stopping | unconnected | pended | accepted | rejected | gaveUp
  | closed => exact Nat.le_refl _

theorem reporting_of_callStep? (hq : Quiet l) (h : Lifecycle.callStep? cfg l = some l') :
    ∃ links, l'.node.reporting = { l.node.reporting with links := links } := by
  rw [Lifecycle.callStep?] at h
  split at h
  · split at h
    · cases h
    · rename_i call rest _
      cases h
      refine ⟨l.node.reporting.links, ?_⟩
      cases call with
      | start =>
          rw [Lifecycle.acquire]
          split <;> rfl
      | stop =>
          rw [Lifecycle.acquire]
          split <;> rfl
  · cases h
    rw [Lifecycle.connect]
    split <;> exact ⟨_, rfl⟩
  · rename_i s _
    cases h
    rw [Lifecycle.beginSetup]
    split
    · exact ⟨_, rfl⟩
    · rename_i p he
      cases (hq.peerOf s).symm.trans he
  · split at h
    · cases h
      rw [Lifecycle.setUp]
      split <;> exact ⟨_, rfl⟩
    · cases h
  · cases h
    exact ⟨_, rfl⟩
  · cases h
    exact ⟨_, rfl⟩

theorem created_of_happens {o o' : Kpm.Overlap} {e : Kpm.Overlap.Event} (h : o.Happens e o')
    (he : e.admission? = none) :
    o'.reporting.tickers.created = o.reporting.tickers.created := by
  cases h with
  | task k ht hs => exact (Kpm.Reporting.taskStep_of_step? hs).created_eq
  | admits => cases he
  | stops => exact Kpm.Reporting.silence_created ..
  | breaks _ hs =>
      obtain ⟨-, rfl⟩ := Kpm.Reporting.cut?_eq_some_iff.1 hs
      rfl
  | removes hr =>
      obtain ⟨-, rfl⟩ := Kpm.Reporting.take_eq_ok_iff.1 hr
      rfl
  | around => rfl

theorem link_of_taskStep {k : Kpm.Service} {r r' : Kpm.Reporting} {t : Kpm.ReportTask}
    (h : Kpm.Reporting.TaskStep k r t r') (hs : s ≠ t.session) : r'.link? s = r.link? s := by
  cases h with
  | arrived =>
      have hl := r.link?_modifyLink t.session s
      simp only [Ne.symm hs, if_false, Option.map_id'] at hl
      exact hl _
  | _ => rfl

theorem served_cases (hm : cfg.models.models = [Node.kpm cfg.kpm]) (found : Option SessionId)
    (r : SubscriptionRequest) (node : Node) (next : TickerId) :
    (ticker? next (cfg.models.subscription found r node).1 = none ∧
      (cfg.models.subscription found r node).2 = node) ∨
    ∃ on, found = some on ∧ ticker? next (cfg.models.subscription found r node).1 = some next ∧
      ∃ m, (cfg.kpm.subscription on r node.reporting).1 = .ok (.success m) ∧
        (cfg.models.subscription found r node).2 =
          { node with reporting := (cfg.kpm.subscription on r node.reporting).2 } := by
  rw [ModelRegistry.subscription]
  cases hg : cfg.models.get? r.function with
  | none => exact .inl ⟨rfl, rfl⟩
  | some m =>
      obtain rfl := Lifecycle.eq_kpm hm hg
      cases found with
      | none => exact .inl ⟨rfl, rfl⟩
      | some on =>
          have ho : (Node.kpm cfg.kpm).subscription on r node =
              ((cfg.kpm.subscription on r node.reporting).1,
                { node with reporting := (cfg.kpm.subscription on r node.reporting).2 }) := rfl
          obtain ⟨o, hd⟩ := Kpm.exists_decision cfg.kpm on r node.reporting
          have he := hd.eq
          simp only [ho, he]
          cases hd with
          | malformed | unreportable | untimed | taken => exact .inl ⟨rfl, rfl⟩
          | admitted => exact .inr ⟨on, rfl, rfl, _, by rw [he], by rw [he]⟩

structure Traced (es : List Event) (n : Nat) (t : PendingRequest) : Prop where
  opened : t.session.val < n
  looked : ∀ f, t.found = some f → .looked t.session f.1 f.2 ∈ es

/-- What is found attached is the session that was opened last. -/
structure Fits (es : List Event) (c : Intake) : Prop where
  attended : ∃ gone, c.life.Attended gone
  plain : Quiet c.life
  requests : ∀ t ∈ c.requests, Traced es c.life.peers.length t
  looked : ∀ s found n, .looked s found n ∈ es → s.val < n ∧ ∀ on, found = some on → on.val + 1 = n
  served : ∀ s found n i, .served s found n i ∈ es →
    .looked s found n ∈ es ∧ (found = none → i = none)

theorem Traced.mono {t : PendingRequest} {n' : Nat} (h : Traced es n t) (hn : n ≤ n') (e : Event) :
    Traced (es ++ [e]) n' t :=
  ⟨Nat.lt_of_lt_of_le h.opened hn, fun f he => List.mem_append_left _ (h.looked f he)⟩

theorem Fits.keep (h : Fits es c) (hlook : ∀ s found n, e ≠ .looked s found n)
    (hserve : ∀ s found n i, e ≠ .served s found n i) (ha : ∃ gone, c'.life.Attended gone)
    (hp : Quiet c'.life) (hl : c.life.peers.length ≤ c'.life.peers.length)
    (hr : ∀ t ∈ c'.requests, t ∈ c.requests ∨
      t.session.val < c'.life.peers.length ∧ t.found = none) : Fits (es ++ [e]) c' where
  attended := ha
  plain := hp
  requests t ht := by
    rcases hr t ht with ht | ⟨hs, hf⟩
    · exact (h.requests t ht).mono hl e
    · exact ⟨hs, fun f he => by rw [hf] at he; cases he⟩
  looked s found n hm := by
    rcases List.mem_append.1 hm with hm | hm
    · exact h.looked s found n hm
    · exact absurd (List.mem_singleton.1 hm).symm (hlook s found n)
  served s found n i hm := by
    rcases List.mem_append.1 hm with hm | hm
    · obtain ⟨hk, hn⟩ := h.served s found n i hm
      exact ⟨List.mem_append_left _ hk, hn⟩
    · exact absurd (List.mem_singleton.1 hm).symm (hserve s found n i)

theorem Fits.looks {before after : List PendingRequest} {r : SubscriptionRequest} (h : Fits es c)
    (ht : c.requests = before ++ ⟨s, r, none⟩ :: after) :
    Fits (es ++ [.looked s c.life.agent.attached c.life.peers.length]) { c with
      requests :=
        before ++ ⟨s, r, some (c.life.agent.attached, c.life.peers.length)⟩ :: after } := by
  have hreq := h.requests
  rw [ht, List.forall_mem_append, List.forall_mem_cons] at hreq
  obtain ⟨hb, hs, ha⟩ := hreq
  refine ⟨h.attended, h.plain, ?_, fun s' found n hm => ?_, fun s' found n i hm => ?_⟩
  · refine List.forall_mem_append.2 ⟨fun t hm => (hb t hm).mono (Nat.le_refl _) _,
      List.forall_mem_cons.2 ⟨⟨hs.opened, fun f he => ?_⟩,
        fun t hm => (ha t hm).mono (Nat.le_refl _) _⟩⟩
    cases he
    exact List.mem_append_right _ (List.mem_singleton_self _)
  · rcases List.mem_append.1 hm with hm | hm
    · exact h.looked s' found n hm
    · cases List.mem_singleton.1 hm
      obtain ⟨gone, hg⟩ := h.attended
      exact ⟨hs.opened, fun on => attached_last hg.stands⟩
  · obtain ⟨hk, hn⟩ := h.served s' found n i (by simpa using hm)
    exact ⟨List.mem_append_left _ hk, hn⟩

theorem Fits.serves (hm : cfg.models.models = [Node.kpm cfg.kpm])
    {before after : List PendingRequest} {r : SubscriptionRequest} (h : Fits es c)
    (ht : c.requests = before ++ ⟨s, r, some (found, n)⟩ :: after) (next : TickerId) (node : Node) :
    Fits (es ++ [.served s found n
        (ticker? next (cfg.models.subscription found r c.life.node).1)])
      { c with life := { c.life with node := node }, requests := before ++ after } := by
  have hreq := h.requests
  rw [ht, List.forall_mem_append, List.forall_mem_cons] at hreq
  obtain ⟨hb, hs, ha⟩ := hreq
  obtain ⟨gone, hg⟩ := h.attended
  refine ⟨⟨_, hg.moment (.work (c := cfg) node)⟩, ⟨h.plain.peer, h.plain.peers⟩, ?_,
    fun s' found' n' hm => ?_, fun s' found' n' i hm' => ?_⟩
  · exact List.forall_mem_append.2 ⟨fun t hm => (hb t hm).mono (Nat.le_refl _) _,
      fun t hm => (ha t hm).mono (Nat.le_refl _) _⟩
  · exact h.looked s' found' n' (by simpa using hm)
  · rcases List.mem_append.1 hm' with hm' | hm'
    · obtain ⟨hk, hn⟩ := h.served s' found' n' i hm'
      exact ⟨List.mem_append_left _ hk, hn⟩
    · cases List.mem_singleton.1 hm'
      refine ⟨List.mem_append_left _ (hs.looked _ rfl), ?_⟩
      rintro rfl
      rcases served_cases hm none r c.life.node next with ⟨hi, -⟩ | ⟨on, ho, -⟩
      · exact hi
      · cases ho

theorem Fits.happens (hm : cfg.models.models = [Node.kpm cfg.kpm]) (h : Fits es c)
    (hh : Happens cfg c e c') : Fits (es ++ [e]) c' := by
  obtain ⟨gone, ha⟩ := h.attended
  have next {l : Lifecycle} (hl : Lifecycle.Moment cfg c.life l) : ∃ gone, l.Attended gone :=
    ⟨_, ha.moment hl⟩
  cases hh with
  | asks =>
      exact h.keep nofun nofun (next (.ask _ _ _)) ⟨h.plain.peer, h.plain.peers⟩ (Nat.le_refl _)
        fun _ => .inl
  | expects p hp =>
      exact h.keep nofun nofun (next (.expect p)) ⟨hp, h.plain.peers⟩ (Nat.le_refl _) fun _ => .inl
  | calls hs =>
      have hl := Lifecycle.callStep_of_callStep? hs
      exact h.keep nofun nofun (next (.call hs)) (h.plain.callStep hl) (length_peers_le hl)
        fun _ => .inl
  | ends hh hm hc =>
      exact h.keep nofun nofun (next (.monitor hh hm hc)) ⟨h.plain.peer, h.plain.peers⟩
        (Nat.le_refl _) fun _ => .inl
  | works =>
      exact h.keep nofun nofun (next (.work _)) ⟨h.plain.peer, h.plain.peers⟩ (Nat.le_refl _)
        fun _ => .inl
  | reads r hs =>
      refine h.keep nofun nofun h.attended h.plain (Nat.le_refl _) fun t ht => ?_
      rcases List.mem_cons.1 ht with rfl | ht
      · exact .inr ⟨hs, rfl⟩
      · exact .inl ht
  | looks ht => exact h.looks ht
  | serves ht => exact h.serves hm ht _ _

theorem Course.fits (hm : cfg.models.models = [Node.kpm cfg.kpm])
    (hc : Course cfg (start node) es c) : Fits es c := by
  induction hc with
  | refl =>
      have hs : Lifecycle.Course cfg node ∅ (.begin node) := .start
      exact ⟨⟨∅, hs.attended⟩, .begin node, nofun, nofun, nofun⟩
  | tail _ hh ih => exact ih.happens hm hh

/-- Entries and tasks are of requests that were served, with the sessions they found. -/
structure Origins (es : List Event) (c : Intake) : Prop where
  given : ∀ i ∈ tickers es, i.val < c.life.node.reporting.tickers.created
  once : (tickers es).Nodup
  entries : ∀ key u, c.overlap.stored? key = some u →
    ∃ i s n, u.ticker = some i ∧ .served s (some u.session) n (some i) ∈ es
  tasks : ∀ t ∈ c.life.node.reporting.tasks,
    ∃ s n, .served s (some t.session) n (some t.ticker) ∈ es

theorem Origins.keep (h : Origins es c) (he : e.ticker? = none)
    (hi : c'.life.node.reporting.tickers.created = c.life.node.reporting.tickers.created)
    (hu : ∀ key u, c'.overlap.stored? key = some u → c.overlap.stored? key = some u)
    (ht : ∀ x ∈ c'.life.node.reporting.tasks,
      ∃ y ∈ c.life.node.reporting.tasks, x = { y with phase := x.phase }) :
    Origins (es ++ [e]) c' := by
  have hes : tickers (es ++ [e]) = tickers es := by simp [tickers, he]
  refine ⟨?_, ?_, fun key u hk => ?_, fun x hx => ?_⟩
  · rw [hes, hi]
    exact h.given
  · rw [hes]
    exact h.once
  · obtain ⟨i, s, n, hi, hm⟩ := h.entries key u (hu key u hk)
    exact ⟨i, s, n, hi, List.mem_append_left _ hm⟩
  · obtain ⟨y, hy, hxy⟩ := ht x hx
    obtain ⟨s, n, hm⟩ := h.tasks y hy
    rw [hxy]
    exact ⟨s, n, List.mem_append_left _ hm⟩

theorem Origins.admits (h : Origins es c) {k : Kpm.Service} {r : SubscriptionRequest}
    {m : SubscriptionResponse}
    (hm : (k.subscription on r c.life.node.reporting).1 = .ok (.success m))
    (hc : c'.life.node.reporting = (k.subscription on r c.life.node.reporting).2) (s : SessionId)
    (n : Nat) : Origins
      (es ++ [.served s (some on) n (some c.life.node.reporting.tickers.next)]) c' := by
  obtain ⟨-, accepted, refused, period, hs⟩ := Kpm.Overlap.admission_cases hm
  rw [hs] at hc
  have hes : tickers (es ++ [.served s (some on) n (some c.life.node.reporting.tickers.next)]) =
      tickers es ++ [c.life.node.reporting.tickers.next] := by simp [tickers, Event.ticker?]
  have hnew := List.mem_append_right es (List.mem_singleton_self
    (Event.served s (some on) n (some c.life.node.reporting.tickers.next)))
  refine ⟨fun i hi => ?_, ?_, fun key u hu => ?_, fun x hx => ?_⟩
  · rw [hc]
    rw [hes, List.mem_append, List.mem_singleton] at hi
    rcases hi with hi | rfl
    · exact Nat.lt_succ_of_lt (h.given i hi)
    · exact Nat.lt_succ_self _
  · rw [hes]
    refine List.nodup_append.2 ⟨h.once, List.nodup_singleton _, fun i hi j hj hij => ?_⟩
    have hlt := h.given i hi
    rw [hij, List.mem_singleton.1 hj] at hlt
    exact Nat.lt_irrefl _ hlt
  · rw [Kpm.Overlap.stored?, overlap, hc, Table.get?_insert] at hu
    split at hu
    · cases hu
      exact ⟨_, s, n, rfl, hnew⟩
    · obtain ⟨i, s', n', hi, hm⟩ := h.entries key u hu
      exact ⟨i, s', n', hi, List.mem_append_left _ hm⟩
  · rw [hc] at hx
    rcases List.mem_append.1 hx with hx | hx
    · obtain ⟨s', n', hm⟩ := h.tasks x hx
      exact ⟨s', n', List.mem_append_left _ hm⟩
    · rw [List.mem_singleton.1 hx]
      exact ⟨s, n, hnew⟩

theorem Origins.happens (hm : cfg.models.models = [Node.kpm cfg.kpm]) (h : Origins es c)
    (hq : Quiet c.life) (hh : Happens cfg c e c') : Origins (es ++ [e]) c' := by
  have same (x : Kpm.ReportTask) (hx : x ∈ c.life.node.reporting.tasks) :
      ∃ y ∈ c.life.node.reporting.tasks, x = { y with phase := x.phase } := ⟨x, hx, rfl⟩
  cases hh with
  | asks | expects | ends | reads | looks => exact h.keep rfl rfl (fun _ _ => id) same
  | calls hs =>
      obtain ⟨links, hl⟩ := reporting_of_callStep? hq hs
      refine h.keep rfl (by rw [hl]) (fun key u hu => ?_) fun x hx => ?_
      · rw [overlap, hl] at hu
        exact hu
      · rw [hl] at hx
        exact same x hx
  | works hw he =>
      refine h.keep rfl (created_of_happens hw he) (fun key u hu => ?_) fun x hx => ?_
      · refine (hw.of_stored hu).resolve_right ?_
        rintro ⟨ha, -, -⟩
        rw [ha] at he
        cases he
      · refine (hw.of_mem hx).resolve_right ?_
        rintro ⟨ha, -, -⟩
        rw [ha] at he
        cases he
  | @serves before s r found n after ht =>
      rcases served_cases hm found r c.life.node c.life.node.reporting.tickers.next with
        ⟨hi, hn⟩ | ⟨on, rfl, hi, m, hk, hn⟩
      · rw [hi, hn]
        exact h.keep rfl rfl (fun _ _ => id) same
      · rw [hi, hn]
        exact h.admits hk rfl s n

theorem Course.origins (hm : cfg.models.models = [Node.kpm cfg.kpm]) {p : Population} {epoch : Int}
    (hn : node.reporting = .start p epoch) (hc : Course cfg (start node) es c) : Origins es c := by
  induction hc with
  | refl =>
      refine ⟨nofun, List.nodup_nil, fun key u hu => ?_, fun t ht => ?_⟩
      · have hs : (start node).overlap.stored? key = none := by
          rw [Kpm.Overlap.stored?, overlap]
          show node.reporting.subscriptions.entries.get? key = none
          rw [hn]
          rfl
        cases hs.symm.trans hu
      · have hs : (start node).life.node.reporting.tasks = [] := by
          show node.reporting.tasks = []
          rw [hn]
          rfl
        rw [hs] at ht
        cases ht
  | tail hc hh ih => exact ih.happens hm (hc.fits hm).plain hh

/-- A subscription is admitted on the session that was attached when the task of its request looked,
which is the one that was opened last by then, and only there it is reported on. That is the session
from which the request was read just if none was opened since. When no session was attached,
nothing is admitted. -/
theorem admitted_on_found (hm : cfg.models.models = [Node.kpm cfg.kpm]) {p : Population}
    {epoch : Int} (hn : node.reporting = .start p epoch) (hc : Course cfg (start node) es c) :
    (tickers es).Nodup ∧
    (∀ s found n i, .served s found n i ∈ es → .looked s found n ∈ es ∧ s.val < n ∧
      (found = none → i = none) ∧
      ∀ on, found = some on → on.val + 1 = n ∧ s.val ≤ on.val ∧ (on = s ↔ s.val + 1 = n)) ∧
    (∀ key u, c.overlap.stored? key = some u →
      ∃ i s n, u.ticker = some i ∧ .served s (some u.session) n (some i) ∈ es) ∧
    ∀ t ∈ c.life.node.reporting.tasks,
      (∃ s n, .served s (some t.session) n (some t.ticker) ∈ es) ∧
      ∀ k r, c.life.node.reporting.step? k t = some r →
        ∀ s, s ≠ t.session → r.link? s = c.life.node.reporting.link? s := by
  have hf := hc.fits hm
  have ho := hc.origins hm hn
  refine ⟨ho.once, fun s found n i hs => ?_, ho.entries, fun t ht =>
    ⟨ho.tasks t ht, fun k r hr s hs => link_of_taskStep (Kpm.Reporting.taskStep_of_step? hr) hs⟩⟩
  obtain ⟨hl, hi⟩ := hf.served s found n i hs
  obtain ⟨hlt, hlast⟩ := hf.looked s found n hl
  refine ⟨hl, hlt, hi, fun on hon => ?_⟩
  have hn := hlast on hon
  refine ⟨hn, by omega, ?_⟩
  cases on
  cases s
  simp only [SessionId.mk.injEq] at *
  omega

theorem timely_admitted_on_own :
    let k : Kpm.Service := ⟨⟨⟨1⟩, ⟨⟨1, 3, 8⟩, ⟨4, 2, 6⟩, 3⟩⟩, .standard, []⟩
    let cfg : AgentConfig :=
      ⟨k.node, "127.0.0.1:36421", ⟨[Node.kpm k], List.pairwise_singleton _ _⟩, k⟩
    let node : Node := ⟨.start .empty 0, []⟩
    cfg.models.models = [Node.kpm cfg.kpm] ∧ node.reporting = .start .empty 0 ∧
      ∃ es c key u, Course cfg (start node) es c ∧ .served ⟨0⟩ (some ⟨0⟩) 1 (some ⟨0⟩) ∈ es ∧
        c.overlap.stored? key = some u ∧
        ∃ i s n, u.ticker = some i ∧ .served s (some u.session) n (some i) ∈ es ∧
          u.session.val + 1 = n ∧ (u.session = s ↔ s.val + 1 = n) := by
  intro k cfg node
  let r : SubscriptionRequest :=
    ⟨⟨1, 2⟩, Kpm.functionId, [100, 0, 0, 0], [⟨⟨1⟩, .report, none⟩]⟩
  let key := SubscriptionKey.of r.request Kpm.functionId
  let l := Lifecycle.run cfg 4 { Lifecycle.begin node with waiting := [.start] }
  let served := (l.serve cfg (.subscriptionRequest r)).2
  obtain ⟨es, hstart⟩ : ∃ es, Course cfg (start node) es ⟨l, [], []⟩ :=
    call_course cfg [.start] 4 (start node)
  have hs : (⟨0⟩ : SessionId).val < l.peers.length := by decide
  have hserve := serve_course cfg (c := ⟨l, [], []⟩) hs r
  have hn : l.peers.length = 1 := by decide
  have ha : l.agent.attached = some ⟨0⟩ := by decide
  have hi : ticker? l.node.reporting.tickers.next
      (cfg.models.subscription (some ⟨0⟩) r l.node).1 = some ⟨0⟩ := by decide
  obtain ⟨u, hu⟩ : ∃ u, (⟨served, [], []⟩ : Intake).overlap.stored? key = some u :=
    Option.isSome_iff_exists.1 (by decide)
  rw [hn, ha, hi] at hserve
  have hc := hstart.trans hserve
  obtain ⟨-, hserved, hentries, -⟩ := admitted_on_found rfl rfl hc
  obtain ⟨i, s, n, hui, hm⟩ := hentries key u hu
  obtain ⟨-, -, -, hf⟩ := hserved s (some u.session) n (some i) hm
  obtain ⟨hlast, -, how⟩ := hf u.session rfl
  exact ⟨rfl, rfl, _, _, key, u, hc, by simp, hu, i, s, n, hui, hm, hlast, how⟩

/-- The agent is stopped and started again before a request of the first session is served. It is
admitted on the second session. -/
theorem late_request_admitted_elsewhere :
    ¬ ∀ cfg node p epoch es c s found n i, cfg.models.models = [Node.kpm cfg.kpm] →
      node.reporting = .start p epoch → Course cfg (start node) es c →
      .served s (some found) n (some i) ∈ es → found = s := by
  intro h
  let k : Kpm.Service := ⟨⟨⟨1⟩, ⟨⟨1, 3, 8⟩, ⟨4, 2, 6⟩, 3⟩⟩, .standard, []⟩
  let cfg : AgentConfig :=
    ⟨k.node, "127.0.0.1:36421", ⟨[Node.kpm k], List.pairwise_singleton _ _⟩, k⟩
  let node : Node := ⟨.start .empty 0, []⟩
  let r : SubscriptionRequest :=
    ⟨⟨1, 2⟩, Kpm.functionId, [100, 0, 0, 0], [⟨⟨1⟩, .report, none⟩]⟩
  let first := Lifecycle.run cfg 4 { Lifecycle.begin node with waiting := [.start] }
  let l := Lifecycle.run cfg 7 { first with waiting := [.stop, .start] }
  obtain ⟨es₁, hfirst⟩ : ∃ es, Course cfg (start node) es ⟨first, [], []⟩ :=
    call_course cfg [.start] 4 (start node)
  have hread : Happens cfg ⟨first, [], []⟩ (.read ⟨0⟩) ⟨first, [⟨⟨0⟩, r, none⟩], []⟩ :=
    .reads r (by decide)
  obtain ⟨es₂, hagain⟩ : ∃ es, Course cfg ⟨first, [⟨⟨0⟩, r, none⟩], []⟩ es
      ⟨l, [⟨⟨0⟩, r, none⟩], []⟩ :=
    call_course cfg [.stop, .start] 7 ⟨first, [⟨⟨0⟩, r, none⟩], []⟩
  have ha : l.agent.attached = some ⟨1⟩ := by decide +kernel
  have hi : ticker? l.node.reporting.tickers.next
      (cfg.models.subscription (some ⟨1⟩) r l.node).1 = some ⟨0⟩ := by decide +kernel
  clear_value l
  have hlook : Happens cfg ⟨l, [⟨⟨0⟩, r, none⟩], []⟩ (.looked ⟨0⟩ l.agent.attached l.peers.length)
      ⟨l, [⟨⟨0⟩, r, some (l.agent.attached, l.peers.length)⟩], []⟩ :=
    @Happens.looks _ _ [] _ _ _ rfl
  rw [ha] at hlook
  have hserve : Happens cfg ⟨l, [⟨⟨0⟩, r, some (some ⟨1⟩, l.peers.length)⟩], []⟩ _ _ :=
    @Happens.serves _ _ [] _ _ _ _ [] rfl
  rw [hi] at hserve
  have hc := (((hfirst.tail hread).trans hagain).tail hlook).tail hserve
  cases h cfg node .empty 0 _ _ ⟨0⟩ ⟨1⟩ _ ⟨0⟩ rfl rfl hc
    (List.mem_append_right _ (List.mem_singleton_self _))

end Intake

end E2Node
