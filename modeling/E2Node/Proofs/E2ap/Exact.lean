import E2Node.E2ap.Frame
import E2Node.Proofs.Wire.Exact

namespace E2Node

open Wire (Countable)

def Pdu.Fits : Pdu → Prop
  | .setupRequest m => Countable m.functions.length ∧
      ∀ f ∈ m.functions, Countable f.oid.utf8ByteSize ∧ Countable f.definition.length
  | .setupResponse m => Countable m.accepted.length ∧ Countable m.rejected.length
  | .subscriptionRequest m => Countable m.eventTrigger.length ∧ Countable m.actions.length ∧
      ∀ a ∈ m.actions, ∀ d ∈ a.definition, Countable d.length
  | .subscriptionResponse m => Countable m.admitted.length ∧ Countable m.notAdmitted.length
  | .controlRequest m => (∀ c ∈ m.callProcess, Countable c.length) ∧
      Countable m.header.length ∧ Countable m.message.length
  | .controlAcknowledge m => (∀ c ∈ m.callProcess, Countable c.length) ∧
      ∀ o ∈ m.outcome, Countable o.length
  | .controlFailure m => ∀ c ∈ m.callProcess, Countable c.length
  | .connectionUpdate m =>
      (Countable m.add.length ∧ ∀ t ∈ m.add, Countable t.utf8ByteSize) ∧
        Countable m.remove.length ∧ ∀ t ∈ m.remove, Countable t.utf8ByteSize
  | .connectionUpdateAcknowledge m =>
      (Countable m.setup.length ∧ ∀ t ∈ m.setup, Countable t.utf8ByteSize) ∧
        Countable m.failed.length ∧ ∀ t ∈ m.failed, Countable t.utf8ByteSize
  | .indication m => Countable m.header.length ∧ Countable m.message.length ∧
      ∀ c ∈ m.callProcess, Countable c.length
  | .setupFailure _ | .subscriptionFailure _ | .subscriptionDeleteRequest _
  | .subscriptionDeleteResponse _ | .subscriptionDeleteFailure _ | .connectionUpdateFailure _
  | .errorIndication _ => True

namespace Wire.Codec

variable {α : Type} {Fits : α → Prop}

theorem octetTriple_exact : octetTriple.Exact fun _ => True :=
  (of_exact (pair_exact u8_exact (pair_exact u8_exact u8_exact)) _).congr (by simp)

theorem functionId_exact : functionId.Exact fun _ => True := of_exact u16_exact _

theorem actionId_exact : actionId.Exact fun _ => True := of_exact u8_exact _

theorem requestId_exact : requestId.Exact fun _ => True :=
  (of_exact (pair_exact u32_exact u32_exact) _).congr (by simp)

theorem actionType_exact : actionType.Exact fun _ => True :=
  oneOf_exact (by intro t; cases t <;> decide) (by decide) (by decide)

theorem indicationType_exact : indicationType.Exact fun _ => True :=
  oneOf_exact (by intro t; cases t <;> decide) (by decide) (by decide)

theorem members_exact (g : CauseGroup) : (oneOf g.members).Exact fun _ => True := by
  cases g <;> exact oneOf_exact (by intro c; cases c <;> decide) (by decide) (by decide)

theorem cause_exact : cause.Exact fun _ => True :=
  of_exact (alternatives_exact (fun _ _ => True) (by intro g; cases g <;> decide) (by decide)
    (by decide) members_exact) _

theorem functionItem_exact : functionItem.Exact fun f =>
    Countable f.oid.utf8ByteSize ∧ Countable f.definition.length :=
  (of_exact (pair_exact functionId_exact
    (pair_exact u16_exact (pair_exact text_exact octets_exact))) _).congr
      (by simp [RanFunctionItem.parts])

theorem requestedAction_exact : requestedAction.Exact fun a =>
    ∀ d ∈ a.definition, Countable d.length :=
  (of_exact (pair_exact actionId_exact
    (pair_exact actionType_exact (option_exact octets_exact))) _).congr
      (by simp [RequestedAction.parts])

theorem addressed_exact {c : Codec α} (hc : c.Exact Fits) :
    (requestId.pair (functionId.pair c)).Exact fun p => Fits p.2.2 :=
  (pair_exact requestId_exact (pair_exact functionId_exact hc)).congr (by simp)

theorem list_exact_of_total {c : Codec α} (hc : c.Exact fun _ => True) :
    (list c).Exact fun as => Countable as.length :=
  (list_exact hc).congr (by simp)

theorem option_exact_of_total {c : Codec α} (hc : c.Exact fun _ => True) :
    (option c).Exact fun _ => True :=
  (option_exact hc).congr (by simp)

theorem body_exact (k : PduKind) : (body k).Exact fun m => (k.pdu m).Fits := by
  have texts := list_exact text_exact
  have part := option_exact octets_exact
  have cited {α : Type} {c : Codec α} (hc : c.Exact fun _ => True) :=
    list_exact_of_total ((pair_exact hc cause_exact).congr (by simp))
  cases k with
  | setupRequest =>
      exact (of_exact (pair_exact (of_exact u64_exact _)
        (pair_exact octetTriple_exact (list_exact functionItem_exact))) _).congr
          (by simp [Pdu.Fits, PduKind.pdu, SetupRequest.parts])
  | setupResponse =>
      exact of_exact (pair_exact (list_exact_of_total functionId_exact)
        (cited functionId_exact)) _
  | subscriptionRequest =>
      exact of_exact (addressed_exact
        (pair_exact octets_exact (list_exact requestedAction_exact))) _
  | subscriptionResponse =>
      exact of_exact (addressed_exact (pair_exact (list_exact_of_total actionId_exact)
        (cited actionId_exact))) _
  | subscriptionDeleteRequest | subscriptionDeleteResponse =>
      exact (of_exact (pair_exact requestId_exact functionId_exact) _).congr
        (by simp [Pdu.Fits, PduKind.pdu])
  | subscriptionFailure | subscriptionDeleteFailure =>
      exact of_exact (addressed_exact cause_exact) _
  | controlRequest =>
      exact (of_exact (addressed_exact
        (pair_exact part (pair_exact octets_exact (pair_exact octets_exact flag_exact)))) _).congr
          (by simp [Pdu.Fits, PduKind.pdu, ControlRequest.parts])
  | controlAcknowledge => exact of_exact (addressed_exact (pair_exact part part)) _
  | controlFailure =>
      exact (of_exact (addressed_exact (pair_exact part cause_exact)) _).congr
        (by simp [Pdu.Fits, PduKind.pdu, ControlFailure.parts])
  | connectionUpdate | connectionUpdateAcknowledge => exact of_exact (pair_exact texts texts) _
  | setupFailure | connectionUpdateFailure => exact of_exact cause_exact _
  | indication =>
      exact (of_exact (addressed_exact (pair_exact actionId_exact (pair_exact
        (option_exact_of_total u32_exact) (pair_exact indicationType_exact
          (pair_exact octets_exact (pair_exact octets_exact part)))))) _).congr
            (by simp [Pdu.Fits, PduKind.pdu, Indication.parts])
  | errorIndication =>
      exact (of_exact (pair_exact (option_exact_of_total requestId_exact)
        (pair_exact (option_exact_of_total functionId_exact) cause_exact)) _).congr
          (by simp [Pdu.Fits, PduKind.pdu])

theorem pdu_exact : pdu.Exact Pdu.Fits :=
  (of_exact (alternatives_exact _ (by intro k; cases k <;> decide) (by decide) (by decide)
    body_exact) _).congr fun p => by
      change (Pdu.parts.join (Pdu.parts.split p)).Fits ↔ p.Fits
      rw [Pdu.parts.join_split]

end Wire.Codec

end E2Node
