import E2Node.Proofs.E2ap.Frame
import E2Node.Proofs.Wire.Truncation

namespace E2Node

namespace Wire.Codec

variable {α : Type} {c : Codec α}

theorem steady_octetTriple : Steady octetTriple.decode :=
  steady_of (steady_pair steady_u8 (steady_pair steady_u8 steady_u8)) _

theorem steady_functionId : Steady functionId.decode := steady_of steady_u16 _

theorem steady_actionId : Steady actionId.decode := steady_of steady_u8 _

theorem steady_requestId : Steady requestId.decode :=
  steady_of (steady_pair steady_u32 steady_u32) _

theorem steady_cause : Steady cause.decode :=
  steady_of (steady_alternatives _ fun _ => steady_oneOf _) _

theorem steady_functionItem : Steady functionItem.decode :=
  steady_of (steady_pair steady_functionId
    (steady_pair steady_u16 (steady_pair steady_text steady_octets))) _

theorem steady_requestedAction : Steady requestedAction.decode :=
  steady_of (steady_pair steady_actionId
    (steady_pair (steady_oneOf _) (steady_option steady_octets))) _

theorem steady_addressed (h : Steady c.decode) :
    Steady (requestId.pair (functionId.pair c)).decode :=
  steady_pair steady_requestId (steady_pair steady_functionId h)

theorem steady_body (k : PduKind) : Steady (body k).decode := by
  have texts := steady_list steady_text
  have part := steady_option steady_octets
  cases k with
  | setupRequest =>
      exact steady_of (steady_pair (steady_of steady_u64 _)
        (steady_pair steady_octetTriple (steady_list steady_functionItem))) _
  | setupResponse =>
      exact steady_of (steady_pair (steady_list steady_functionId)
        (steady_list (steady_pair steady_functionId steady_cause))) _
  | subscriptionRequest =>
      exact steady_of (steady_addressed
        (steady_pair steady_octets (steady_list steady_requestedAction))) _
  | subscriptionResponse =>
      exact steady_of (steady_addressed (steady_pair (steady_list steady_actionId)
        (steady_list (steady_pair steady_actionId steady_cause)))) _
  | subscriptionDeleteRequest | subscriptionDeleteResponse =>
      exact steady_of (steady_pair steady_requestId steady_functionId) _
  | subscriptionFailure | subscriptionDeleteFailure =>
      exact steady_of (steady_addressed steady_cause) _
  | controlRequest =>
      exact steady_of (steady_addressed
        (steady_pair part (steady_pair steady_octets (steady_pair steady_octets steady_flag)))) _
  | controlAcknowledge => exact steady_of (steady_addressed (steady_pair part part)) _
  | controlFailure => exact steady_of (steady_addressed (steady_pair part steady_cause)) _
  | connectionUpdate | connectionUpdateAcknowledge => exact steady_of (steady_pair texts texts) _
  | setupFailure | connectionUpdateFailure => exact steady_of steady_cause _
  | indication =>
      exact steady_of (steady_addressed (steady_pair steady_actionId
        (steady_pair (steady_option steady_u32) (steady_pair (steady_oneOf _)
          (steady_pair steady_octets (steady_pair steady_octets part)))))) _
  | errorIndication =>
      exact steady_of (steady_pair (steady_option steady_requestId)
        (steady_pair (steady_option steady_functionId) steady_cause)) _

theorem steady_pdu : Steady pdu.decode := steady_of (steady_alternatives _ steady_body) _

end Wire.Codec

namespace Frame

open Wire Wire.Codec

/-- A body without its last bytes counts as ended too early, whichever message it is of and wherever
it is cut. A kind that no message has is refused, whatever follows it. -/
theorem cut_body_ended :
    (∀ p : Pdu, p.Fits → ∀ front back, pdu.encode p = front ++ back → back ≠ [] →
      readBody front = .error (.malformed .ended)) ∧
    ∀ (a b c d : UInt8) (rest : List UInt8),
      let kind := a.toNat + 256 * b.toNat + 65536 * c.toNat + 16777216 * d.toNat
      17 ≤ kind →
        readBody (a :: b :: c :: d :: rest) = .error (.malformed (.alternative kind 17)) := by
  constructor
  · intro p hp front back he hb
    rw [readBody, pdu_exact.read_cut steady_pdu hp he hb]
    rfl
  · intro a b c d rest kind hk
    have hv : leValue [a, b, c, d] = kind := by
      simp only [leValue, kind]
      omega
    have hr : pdu.read ([a, b, c, d] ++ rest) = .error (.alternative kind 17) := by
      have ha := alternatives_read_beyond PduKind.all body (rfl : [a, b, c, d].length = 4)
        (show 17 ≤ leValue [a, b, c, d] by rwa [hv]) rest
      rw [pdu, of_read, ha, hv]
      rfl
    exact congrArg (Except.mapError SessionError.malformed) hr

theorem cut_letter_ended :
    let p : Pdu := .connectionUpdate ⟨["é"], []⟩
    let front : List UInt8 := [12, 0, 0, 0, 1, 0, 0, 0, 0, 0, 0, 0, 2, 0, 0, 0, 0, 0, 0, 0, 195]
    p.Fits ∧ pdu.encode p = front ++ [169, 0, 0, 0, 0, 0, 0, 0, 0] ∧
      readBody front = .error (.malformed .ended) ∧
      readBody [17, 0, 0, 0, 2] = .error (.malformed (.alternative 17 17)) := by
  intro p front
  have he : pdu.encode p = front ++ [169, 0, 0, 0, 0, 0, 0, 0, 0] := by decide +kernel
  have hp : p.Fits := fits_of_encode_le (by rw [he]; decide)
  obtain ⟨hcut, hkind⟩ := cut_body_ended
  exact ⟨hp, he, hcut p hp front _ he (by decide), hkind 17 0 0 0 [2] (by decide)⟩

end Frame

end E2Node
