import E2Node.Agent.Lifecycle
import E2Node.Proofs.E2ap.Stream
import E2Node.Proofs.Kpm.Admission
import E2Node.Proofs.Wire.Size

namespace E2Node

open Wire Wire.Codec

/-- Which messages answer a request. A control is never acknowledged, and the error for an update
has no identifiers. -/
inductive Pdu.AnsweredBy : Pdu → Pdu → Prop
  | admitted {r m} (hr : m.request = r.request) (hf : m.function = r.function) :
      AnsweredBy (.subscriptionRequest r) (.subscriptionResponse m)
  | refused {r m} (hr : m.request = r.request) (hf : m.function = r.function) :
      AnsweredBy (.subscriptionRequest r) (.subscriptionFailure m)
  | unserved (r cause) : AnsweredBy (.subscriptionRequest r)
      (.errorIndication ⟨some r.request, some r.function, cause⟩)
  | deleted {r m} (hr : m.request = r.request) (hf : m.function = r.function) :
      AnsweredBy (.subscriptionDeleteRequest r) (.subscriptionDeleteResponse m)
  | undeleted (r cause) : AnsweredBy (.subscriptionDeleteRequest r)
      (.errorIndication ⟨some r.request, some r.function, cause⟩)
  | uncontrolled (r cause) : AnsweredBy (.controlRequest r)
      (.errorIndication ⟨some r.request, some r.function, cause⟩)
  | unchanged (r cause) : AnsweredBy (.connectionUpdate r) (.errorIndication ⟨none, none, cause⟩)

namespace Wire.Codec

theorem functionId_atMost : functionId.AtMost 2 := of_atMost u16_atMost _

theorem actionId_atMost : actionId.AtMost 1 := of_atMost u8_atMost _

theorem requestId_atMost : requestId.AtMost 8 := of_atMost (pair_atMost u32_atMost u32_atMost) _

theorem cause_atMost : cause.AtMost 8 :=
  of_atMost (alternatives_atMost _ fun g : CauseGroup => oneOf_atMost g.members) _

theorem subscriptionFailure_atMost : subscriptionFailure.AtMost 18 :=
  of_atMost (pair_atMost requestId_atMost (pair_atMost functionId_atMost cause_atMost)) _

theorem subscriptionDeleteResponse_atMost : subscriptionDeleteResponse.AtMost 10 :=
  of_atMost (pair_atMost requestId_atMost functionId_atMost) _

theorem errorIndication_atMost : errorIndication.AtMost 20 :=
  of_atMost (pair_atMost (option_atMost requestId_atMost)
    (pair_atMost (option_atMost functionId_atMost) cause_atMost)) _

theorem subscriptionResponse_length_le {m : SubscriptionResponse} {n : Nat}
    (ha : m.admitted.length ≤ n) (hn : m.notAdmitted.length ≤ n) :
    (subscriptionResponse.encode m).length ≤ 26 + 10 * n := by
  have h₁ := list_encode_length_le actionId_atMost ha
  have h₂ := list_encode_length_le (pair_atMost actionId_atMost cause_atMost) hn
  have hr := requestId_atMost m.request
  have hf := functionId_atMost m.function
  change ((requestId.pair (functionId.pair ((list actionId).pair
    (list (actionId.pair cause))))).encode
      (m.request, m.function, m.admitted, m.notAdmitted)).length ≤ _
  simp only [pair_encode_length]
  omega

end Wire.Codec

namespace Frame

theorem framed_of_le {p : Pdu} {n : Nat} (h : ((body p.kind).encode p.body).length ≤ n)
    (hn : 4 + n ≤ maxLength) : Framed p := by
  have he : (pdu.encode p).length = 4 + ((body p.kind).encode p.body).length :=
    alternatives_encode_length PduKind.all body ⟨p.kind, p.body⟩
  rw [Framed, he]
  omega

theorem framed_errorIndication (m : ErrorIndication) : Framed (.errorIndication m) :=
  framed_of_le (errorIndication_atMost m) (by decide)

theorem framed_subscriptionFailure (m : SubscriptionFailure) : Framed (.subscriptionFailure m) :=
  framed_of_le (subscriptionFailure_atMost m) (by decide)

theorem framed_subscriptionDeleteResponse (m : SubscriptionDeleteResponse) :
    Framed (.subscriptionDeleteResponse m) :=
  framed_of_le (subscriptionDeleteResponse_atMost m) (by decide)

end Frame

open E2Node.Frame (Framed)

def Pdu.Replied (request reply : Pdu) : Prop := request.AnsweredBy reply ∧ Framed reply

structure ServiceModel.Replying {σ : Type} (m : ServiceModel σ) : Prop where
  subscription : ∀ session r s, Pdu.Replied (.subscriptionRequest r)
    (.ofSubscription r (m.subscription session r s).1)
  delete : ∀ r s, Pdu.Replied (.subscriptionDeleteRequest r) (.ofDelete r (m.delete r s).1)
  control : ∀ r s, Pdu.Replied (.controlRequest r) (.ofControl r (m.control r s).1)

namespace Kpm

variable {k : Service} {session : SessionId} {r : SubscriptionRequest} {s : Reporting}
  {o : Except RequestError SubscriptionOutcome × Reporting}

theorem length_reportIds_le (xs : List RequestedAction) : (reportIds xs).length ≤ xs.length := by
  have h := (reportIds_append_otherIds xs).length_eq
  rw [List.length_append, List.length_map] at h
  omega

theorem length_refusals_le (xs : List RequestedAction) :
    (refusals xs).toList.length ≤ xs.length := by
  have h := (reportIds_append_otherIds xs).length_eq
  have hr : (refusals xs).toList.length = (otherIds xs).length := List.length_map _
  rw [List.length_append, List.length_map] at h
  omega

theorem Decision.replied (h : Decision k session r s o) :
    Pdu.Replied (.subscriptionRequest r) (.ofSubscription r o.1) := by
  cases h with
  | malformed => exact ⟨.unserved r _, Frame.framed_errorIndication _⟩
  | unreportable | untimed | taken => exact ⟨.refused rfl rfl, Frame.framed_subscriptionFailure _⟩
  | admitted hw =>
      refine ⟨.admitted rfl rfl, Frame.framed_of_le (subscriptionResponse_length_le (n := 16) ?_ ?_)
        (by decide)⟩
      · exact Nat.le_trans (length_reportIds_le _) hw.few
      · exact Nat.le_trans (length_refusals_le _) hw.few

theorem delete_replied (r : SubscriptionDeleteRequest) (s : Reporting) :
    Pdu.Replied (.subscriptionDeleteRequest r) (.ofDelete r (Service.delete r s).1) := by
  rw [Service.delete]
  cases s.take (.of r.request r.function) with
  | error e => exact ⟨.undeleted r _, Frame.framed_errorIndication _⟩
  | ok found => exact ⟨.deleted rfl rfl, Frame.framed_subscriptionDeleteResponse _⟩

theorem Service.replying (k : Service) : (Node.kpm k).Replying where
  subscription session r n := by
    obtain ⟨o, h⟩ := exists_decision k session r n.reporting
    have hr := h.replied
    rw [← h.eq] at hr
    exact hr
  delete r n := delete_replied r n.reporting
  control r _ := ⟨.uncontrolled r _, Frame.framed_errorIndication _⟩

end Kpm

namespace ModelRegistry

variable {σ : Type} {models : ModelRegistry σ}

theorem serve_replied (h : ∀ m ∈ models.models, m.Replying) (attached : Option SessionId) (s : σ)
    {p : Pdu} (hp : p.IsRequest = true) :
    ∃ reply, ((models.handler attached).serve p s).1 = .ok reply ∧ p.Replied reply := by
  have found {id : RanFunctionId} {m : ServiceModel σ} (hg : models.get? id = some m) :
      m.Replying := h m (List.mem_of_find?_eq_some hg)
  cases p with
  | subscriptionRequest r =>
      refine ⟨_, rfl, ?_⟩
      simp only [handler, subscription]
      cases hg : models.get? r.function with
      | none => exact ⟨.unserved r _, Frame.framed_errorIndication _⟩
      | some m =>
          cases attached with
          | none => exact ⟨.unserved r _, Frame.framed_errorIndication _⟩
          | some session => exact (found hg).subscription session r s
  | subscriptionDeleteRequest r =>
      refine ⟨_, rfl, ?_⟩
      simp only [handler, delete]
      cases hg : models.get? r.function with
      | none => exact ⟨.undeleted r _, Frame.framed_errorIndication _⟩
      | some m => exact (found hg).delete r s
  | controlRequest r =>
      refine ⟨_, rfl, ?_⟩
      simp only [handler, control]
      cases hg : models.get? r.function with
      | none => exact ⟨.uncontrolled r _, Frame.framed_errorIndication _⟩
      | some m => exact (found hg).control r s
  | connectionUpdate r => exact ⟨_, rfl, .unchanged r _, Frame.framed_errorIndication _⟩
  | _ => cases hp

end ModelRegistry

namespace Lifecycle

variable {c : AgentConfig}

theorem serve_of_not_request (l : Lifecycle) {p : Pdu} (hp : p.IsRequest = false) :
    l.serve c p = (.error (.unexpectedPdu p.name), l) := by
  cases p with
  | subscriptionRequest | subscriptionDeleteRequest | controlRequest | connectionUpdate => cases hp
  | _ => rfl

/-- Whatever state the agent and its node are in, a request gets a reply that answers it, names it
and fits a frame. An update changes nothing, and neither does a message that is no request. -/
theorem requests_replied (hm : ∀ m ∈ c.models.models, ∃ k, m = Node.kpm k) (l : Lifecycle) :
    (∀ p, p.IsRequest = true → ∃ reply, (l.serve c p).1 = .ok reply ∧ p.AnsweredBy reply ∧
      ∃ frame, Frame.ofPdu reply = .ok frame) ∧
    (∀ r, (l.serve c (.connectionUpdate r)).2 = l) ∧
    ∀ p, p.IsRequest = false → l.serve c p = (.error (.unexpectedPdu p.name), l) := by
  refine ⟨fun p hp => ?_, fun _ => rfl, fun p hp => serve_of_not_request l hp⟩
  have hr : ∀ m ∈ c.models.models, m.Replying := by
    intro m hm'
    obtain ⟨k, rfl⟩ := hm m hm'
    exact k.replying
  obtain ⟨reply, he, ha, hf⟩ :=
    ModelRegistry.serve_replied hr l.agent.attached l.node hp
  exact ⟨reply, he, ha, _, Frame.ofPdu_written hf⟩

theorem swapped_ids_replied :
    let k : Kpm.Service := ⟨⟨⟨1⟩, ⟨⟨1, 3, 8⟩, ⟨4, 2, 6⟩, 3⟩⟩, .standard, []⟩
    let c : AgentConfig :=
      ⟨k.node, "127.0.0.1:36421", ⟨[Node.kpm k], List.pairwise_singleton _ _⟩, k⟩
    let r : SubscriptionRequest := ⟨⟨7, 9⟩, Kpm.functionId, [100, 0, 0, 0],
      [⟨⟨2⟩, .policy, none⟩, ⟨⟨1⟩, .report, none⟩]⟩
    let l₀ : Lifecycle := { begin ⟨.start .empty 0, []⟩ with agent := ⟨.active, some ⟨0⟩, 1⟩ }
    let l₁ := (l₀.serve c (.subscriptionRequest r)).2
    let l₂ := (l₁.serve c (.subscriptionRequest r)).2
    (∀ m ∈ c.models.models, ∃ k, m = Node.kpm k) ∧
      (∃ reply frame, (l₀.serve c (.subscriptionRequest r)).1 = .ok reply ∧
        Pdu.AnsweredBy (.subscriptionRequest r) reply ∧ Frame.ofPdu reply = .ok frame ∧
        reply = .subscriptionResponse
          ⟨⟨7, 9⟩, ⟨1⟩, [⟨1⟩], [(⟨2⟩, .request .actionNotSupported)]⟩) ∧
      (∃ reply frame, (l₁.serve c (.subscriptionRequest r)).1 = .ok reply ∧
        Pdu.AnsweredBy (.subscriptionRequest r) reply ∧ Frame.ofPdu reply = .ok frame ∧
        reply = .subscriptionFailure ⟨⟨7, 9⟩, ⟨1⟩, .request .unspecified⟩) ∧
      ∃ reply frame, (l₂.serve c (.subscriptionDeleteRequest ⟨⟨7, 9⟩, ⟨1⟩⟩)).1 = .ok reply ∧
        Pdu.AnsweredBy (.subscriptionDeleteRequest ⟨⟨7, 9⟩, ⟨1⟩⟩) reply ∧
        Frame.ofPdu reply = .ok frame ∧ reply = .subscriptionDeleteResponse ⟨⟨7, 9⟩, ⟨1⟩⟩ := by
  intro k c r l₀ l₁ l₂
  have hm : ∀ m ∈ c.models.models, ∃ k, m = Node.kpm k := fun m hm =>
    ⟨k, List.mem_singleton.1 hm⟩
  have given {l : Lifecycle} {p reply : Pdu} (hp : p.IsRequest = true)
      (he : (l.serve c p).1 = .ok reply) : ∃ reply' frame, (l.serve c p).1 = .ok reply' ∧
        p.AnsweredBy reply' ∧ Frame.ofPdu reply' = .ok frame ∧ reply' = reply := by
    obtain ⟨reply', he', ha, frame, hf⟩ := (requests_replied hm l).1 p hp
    exact ⟨reply', frame, he', ha, hf, Except.ok.inj (he'.symm.trans he)⟩
  exact ⟨hm, given rfl (by decide), given rfl (by decide), given rfl (by decide)⟩

end Lifecycle

end E2Node
