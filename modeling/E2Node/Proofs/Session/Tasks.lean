import E2Node.Proofs.Session.Account

namespace E2Node

open E2Node.Frame (Framed)

variable {σ : Type}

namespace Handler

/-- One call of the operation for a request: the reply and the state it leaves. -/
inductive Serves (h : Handler σ) (x : σ) : Pdu → Pdu → σ → Prop
  | subscription (m : SubscriptionRequest) : Serves h x (.subscriptionRequest m)
      (.ofSubscription m (h.subscription m x).1) (h.subscription m x).2
  | delete (m : SubscriptionDeleteRequest) : Serves h x (.subscriptionDeleteRequest m)
      (.ofDelete m (h.delete m x).1) (h.delete m x).2
  | control (m : ControlRequest) : Serves h x (.controlRequest m)
      (.ofControl m (h.control m x).1) (h.control m x).2
  | update (m : ConnectionUpdate) : Serves h x (.connectionUpdate m)
      (.ofUpdate (h.update m x).1) (h.update m x).2

/-- The same handler, which notes the requests its operations are called with. -/
def noting (h : Handler σ) : Handler (List Pdu × σ) where
  subscription m x :=
    let r := h.subscription m x.2
    (r.1, x.1 ++ [.subscriptionRequest m], r.2)
  delete m x :=
    let r := h.delete m x.2
    (r.1, x.1 ++ [.subscriptionDeleteRequest m], r.2)
  control m x :=
    let r := h.control m x.2
    (r.1, x.1 ++ [.controlRequest m], r.2)
  update m x :=
    let r := h.update m x.2
    (r.1, x.1 ++ [.connectionUpdate m], r.2)

variable {h : Handler σ} {p : Pdu}

theorem serve_request (h : Handler σ) (hp : p.IsRequest = true) (x : σ) :
    ∃ reply, (h.serve p x).1 = .ok reply ∧ h.Serves x p reply (h.serve p x).2 := by
  cases p with
  | subscriptionRequest m => exact ⟨_, rfl, .subscription m⟩
  | subscriptionDeleteRequest m => exact ⟨_, rfl, .delete m⟩
  | controlRequest m => exact ⟨_, rfl, .control m⟩
  | connectionUpdate m => exact ⟨_, rfl, .update m⟩
  | _ => cases hp

theorem noting_serve (h : Handler σ) (hp : p.IsRequest = true) (noted : List Pdu) (x : σ) :
    h.noting.serve p (noted, x) = ((h.serve p x).1, noted ++ [p], (h.serve p x).2) := by
  cases p with
  | subscriptionRequest | subscriptionDeleteRequest | controlRequest | connectionUpdate => rfl
  | _ => cases hp

end Handler

def RequestPhase.IsOver : RequestPhase → Bool
  | .replied _ | .lost => true
  | _ => false

namespace StreamSession

def withState {τ : Type} (s : StreamSession σ) (y : τ) : StreamSession τ :=
  { s with handlerState := y }

def trail (es : List Event) (n : Nat) : List Event := es.filter (·.task? = some n)

/-- The way of a task to where it is. -/
inductive Trail (n : Nat) (p : Pdu) : RequestPhase → List Event → Prop
  | waiting : Trail n p .waiting []
  | replying (reply) : Trail n p (.replying reply) [.answered n p (.ok reply)]
  | sending (reply) :
      Trail n p (.sending reply) [.answered n p (.ok reply), .checked n true]
  | replied (reply) : Trail n p (.replied reply)
      [.answered n p (.ok reply), .checked n true, .replied n reply true]
  | closed (reply) : Trail n p .lost [.answered n p (.ok reply), .checked n false]
  | unwritten (reply) : Trail n p .lost
      [.answered n p (.ok reply), .checked n true, .replied n reply false]

def Traced (n : Nat) : Option RequestTask → List Event → Prop
  | none, es => es = []
  | some t, es => Trail n t.request t.phase es

variable {s s' : StreamSession σ} {e : Event} {es : List Event} {p reply : Pdu} {h : Handler σ}
  {x : σ} {n m : Nat} {q : RequestPhase} {t : RequestTask}

theorem getElem?_setPhase (s : StreamSession σ) (n : Nat) (q : RequestPhase) :
    (s.setPhase n q).tasks[n]? = s.tasks[n]?.map fun t => { t with phase := q } := by
  simp [setPhase]

theorem getElem?_setPhase_of_ne (hm : m ≠ n) : (s.setPhase n q).tasks[m]? = s.tasks[m]? := by
  simp [setPhase, hm.symm]

theorem trail_append (es : List Event) (e : Event) (n : Nat) :
    trail (es ++ [e]) n = trail es n ++ trail [e] n := List.filter_append ..

theorem trail_self (he : e.task? = some n) : trail [e] n = [e] := by
  simp [trail, he]

theorem trail_of_ne (he : e.task? ≠ some n) : trail [e] n = [] := by
  simp [trail, he]

theorem Traced.setPhase (hm : Traced m s.tasks[m]? (trail es m)) (he : e.task? = some n)
    (hn : s.tasks[n]? = some t)
    (ht : ∀ {fs}, Trail n t.request t.phase fs → Trail n t.request q (fs ++ [e])) :
    Traced m (s.setPhase n q).tasks[m]? (trail (es ++ [e]) m) := by
  rw [trail_append]
  by_cases hmn : m = n
  · subst hmn
    rw [hn] at hm
    rw [trail_self he, getElem?_setPhase, hn]
    exact ht hm
  · have he' : e.task? ≠ some m := fun h => hmn (Option.some.inj (h.symm.trans he))
    rwa [trail_of_ne he', List.append_nil, getElem?_setPhase_of_ne hmn]

theorem Traced.around (hm : Traced m s.tasks[m]? (trail es m)) (he : e.task? = none)
    {ps : List Pdu} (ht : s'.tasks = s.tasks ++ ps.map (.mk · .waiting)) :
    Traced m s'.tasks[m]? (trail (es ++ [e]) m) := by
  rw [trail_append, trail_of_ne (by rw [he]; exact nofun), List.append_nil, ht]
  by_cases hl : m < s.tasks.length
  · rwa [List.getElem?_append_left hl]
  · rw [List.getElem?_eq_none (Nat.not_lt.1 hl)] at hm
    rw [List.getElem?_append_right (Nat.not_lt.1 hl), List.getElem?_map, hm]
    cases ps[m - s.tasks.length]? with
    | none => rfl
    | some p => exact .waiting

theorem Traced.quiet (hm : Traced m s.tasks[m]? (trail es m)) (he : e.task? = none)
    (ht : s'.tasks = s.tasks) : Traced m s'.tasks[m]? (trail (es ++ [e]) m) := by
  have ht : s'.tasks = s.tasks ++ ([] : List Pdu).map (.mk · .waiting) := by
    rw [ht, List.map_nil, List.append_nil]
  exact hm.around he ht

theorem Account.isRequest (ha : Account es s) (hn : s.tasks[n]? = some t) :
    t.request.IsRequest = true := by
  have hm : t.request ∈ handed es := by
    rw [← ha.tasks]
    exact List.mem_map_of_mem (List.mem_of_getElem? hn)
  exact (List.mem_filter.1 hm).2

theorem Account.answer (ha : Account es s) (h : Handler σ)
    (hn : s.tasks[n]? = some ⟨p, .waiting⟩) :
    ∃ reply, (h.serve p s.handlerState).1 = .ok reply ∧
      h.Serves s.handlerState p reply (s.answer h n).handlerState ∧
      s.answer h n =
        { s with handlerState := (s.answer h n).handlerState }.setPhase n (.replying reply) := by
  obtain ⟨reply, hr, hs⟩ := h.serve_request (ha.isRequest hn) s.handlerState
  refine ⟨reply, hr, ?_, ?_⟩
  · rwa [answer_eq hn]
  · rw [answer_eq hn, hr]
    rfl

theorem Account.answer_noting (ha : Account es s) (h : Handler σ)
    (hn : s.tasks[n]? = some ⟨p, .waiting⟩) (noted : List Pdu) :
    (s.withState (noted, s.handlerState)).answer h.noting n =
      (s.answer h n).withState (noted ++ [p], (s.answer h n).handlerState) := by
  have hp := h.noting_serve (ha.isRequest hn) noted s.handlerState
  rw [answer_eq hn, answer_eq (s := s.withState (noted, s.handlerState)) hn]
  simp only [withState, StreamSession.setPhase, hp]

theorem Account.traced (ha : Account es s) (hs : ∀ n, Traced n s.tasks[n]? (trail es n))
    (hh : Happens s e s') (m : Nat) : Traced m s'.tasks[m]? (trail (es ++ [e]) m) := by
  cases hh with
  | takes hr hs' =>
      rw [route_eq]
      exact (hs m).around rfl rfl
  | answers h hn =>
      obtain ⟨reply, hr, -, he⟩ := ha.answer h hn
      rw [he, hr]
      refine (hs m).setPhase (s := { s with handlerState := _ }) rfl hn fun ht => ?_
      cases ht
      exact .replying reply
  | @checks n p reply hn =>
      rw [check_eq hn]
      refine (hs m).setPhase rfl hn fun ht => ?_
      cases ht
      cases s.closed with
      | true => exact .closed reply
      | false => exact .sending reply
  | @replies n p reply hn =>
      rw [reply_eq hn]
      refine (hs m).setPhase (s := { s with written := _ }) rfl hn fun ht => ?_
      cases ht
      cases (s.write reply).isOk with
      | true => exact .replied reply
      | false => exact .unwritten reply
  | leaves hr =>
      rw [dropSetup_eq]
      exact (hs m).quiet rfl rfl
  | sends hp hs' =>
      obtain ⟨-, -, -, rfl⟩ := send_eq_ok_iff.1 hs'
      exact (hs m).quiet rfl rfl
  | _ => exact (hs m).quiet rfl rfl

theorem Course.traced (hc : Course x es s) : ∀ n, Traced n s.tasks[n]? (trail es n) := by
  induction hc with
  | start => exact fun n => rfl
  | next hc hh ih => exact hc.account.traced ih hh

theorem Course.before {fs gs : List Event} (hc : Course x es s) (he : es = fs ++ e :: gs) :
    ∃ s₁ s₂, Course x fs s₁ ∧ Happens s₁ e s₂ := by
  induction hc generalizing gs with
  | start => simp at he
  | @next es e' s₁ s₂ hc hh ih =>
      rcases gs.eq_nil_or_concat with rfl | ⟨gs, e'', rfl⟩
      · obtain ⟨rfl, h⟩ := List.append_inj' he rfl
        cases h
        exact ⟨s₁, s₂, hc, hh⟩
      · rw [List.concat_eq_append, ← List.cons_append, ← List.append_assoc] at he
        exact ih (List.append_inj' he rfl).1

/-- The tasks of the requests that were handed over, and what each of them has met. -/
structure Served (es : List Event) (s : StreamSession σ) : Prop where
  tasks : s.tasks.map RequestTask.request = handed es
  traced : ∀ n, Traced n s.tasks[n]? (trail es n)
  checked : ∀ fs n b gs, es = fs ++ .checked n b :: gs → (b = true ↔ ∀ f ∈ fs, ¬ f.Closes)
  replied : ∀ fs n reply b gs, es = fs ++ .replied n reply b :: gs →
    (b = true ↔ .broke ∉ fs ∧ Framed reply)
  lost : ∀ n p, s.tasks[n]? = some ⟨p, .lost⟩ → (∃ f ∈ es, f.Closes) ∨ .broke ∈ es ∨
    ∃ reply, .answered n p (.ok reply) ∈ es ∧ ¬ Framed reply
  stream : received es ++ s.written = onStream es

theorem Course.checked {fs gs : List Event} {b : Bool} (hc : Course x es s)
    (he : es = fs ++ .checked n b :: gs) : b = true ↔ ∀ f ∈ fs, ¬ f.Closes := by
  obtain ⟨s₁, s₂, hc₁, hh⟩ := hc.before he
  cases hh with
  | checks hn => simpa using hc₁.account.closed.not

theorem Course.replied {fs gs : List Event} {b : Bool} (hc : Course x es s)
    (he : es = fs ++ .replied n reply b :: gs) : b = true ↔ .broke ∉ fs ∧ Framed reply := by
  obtain ⟨s₁, s₂, hc₁, hh⟩ := hc.before he
  cases hh with
  | replies hn => rw [isOk_write_iff, hc₁.account.writable]

theorem Course.lost (hc : Course x es s) (hn : s.tasks[n]? = some ⟨p, .lost⟩) :
    (∃ f ∈ es, f.Closes) ∨ .broke ∈ es ∨
      ∃ reply, .answered n p (.ok reply) ∈ es ∧ ¬ Framed reply := by
  have ht := hc.traced n
  rw [hn, Traced] at ht
  have hm {e : Event} (he : e ∈ trail es n) : e ∈ es := (List.mem_filter.1 he).1
  generalize trail es n = gs at ht hm
  cases ht with
  | closed reply =>
      obtain ⟨fs, gs, he⟩ := List.append_of_mem (hm (e := .checked n false) (by simp))
      by_contra hne
      have ho : ∀ f ∈ fs, ¬ f.Closes :=
        fun f hf hfc => hne (.inl ⟨f, he ▸ List.mem_append_left _ hf, hfc⟩)
      exact nomatch (hc.checked he).2 ho
  | unwritten reply =>
      obtain ⟨fs, gs, he⟩ := List.append_of_mem (hm (e := .replied n reply false) (by simp))
      by_contra hne
      have hb : .broke ∉ fs := fun hb => hne (.inr (.inl (he ▸ List.mem_append_left _ hb)))
      have hf : Framed reply :=
        by_contra fun hf => hne (.inr (.inr ⟨reply, hm List.mem_cons_self, hf⟩))
      exact nomatch (hc.replied he).2 ⟨hb, hf⟩

theorem Course.served (hc : Course x es s) : Served es s where
  tasks := hc.account.tasks
  traced := hc.traced
  checked _ _ _ _ := hc.checked
  replied _ _ _ _ _ := hc.replied
  lost _ _ := hc.lost
  stream := hc.account.written

structure Called (h : Handler σ) (s : StreamSession σ) (n : Nat) (p : Pdu) : Prop where
  reply : ∃ reply, Happens s (.answered n p (.ok reply)) (s.answer h n) ∧
    h.Serves s.handlerState p reply (s.answer h n).handlerState
  noted : ∀ noted, (s.withState (noted, s.handlerState)).answer h.noting n =
    (s.answer h n).withState (noted ++ [p], (s.answer h n).handlerState)

theorem Account.called (ha : Account es s) (h : Handler σ)
    (hn : s.tasks[n]? = some ⟨p, .waiting⟩) : Called h s n p where
  reply := by
    obtain ⟨reply, hr, hs, -⟩ := ha.answer h hn
    exact ⟨reply, hr ▸ .answers h hn, hs⟩
  noted := ha.answer_noting h hn

end StreamSession

end E2Node
