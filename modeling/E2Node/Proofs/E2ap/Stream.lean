import E2Node.Proofs.E2ap.Frame

namespace E2Node.Frame

open Wire Wire.Codec

theorem take_append_of_take {n : Nat} {bytes front rest : List UInt8}
    (h : Wire.take n bytes = .ok (front, rest)) (more : List UInt8) :
    Wire.take n (bytes ++ more) = .ok (front, rest ++ more) := by
  obtain ⟨rfl, rfl⟩ := eq_append_of_take h
  rw [List.append_assoc]
  exact take_append front (rest ++ more)

theorem scan_append {bytes rest : List UInt8} {result : Except SessionError Pdu}
    (h : scan bytes = .frame result rest) (more : List UInt8) :
    scan (bytes ++ more) = .frame result (rest ++ more) := by
  rw [scan] at h
  split at h
  · cases h
  · rename_i top body ht
    simp only [scan, take_append_of_take ht more]
    unfold scanBody at h ⊢
    split at h
    · rename_i hl
      cases h
      simp only [hl, if_true]
    · rename_i hl
      split at h
      · cases h
      · rename_i front rest ht
        cases h
        simp only [hl, if_false, take_append_of_take ht more]

theorem scan_nil : scan [] = .unfinished := rfl

theorem drain_unfinished {bytes : List UInt8} (h : scan bytes = .unfinished) :
    drain bytes = ([], .waiting bytes) := by
  rw [drain]
  split <;> simp_all

theorem drain_error {bytes rest : List UInt8} {e : SessionError}
    (h : scan bytes = .frame (.error e) rest) : drain bytes = ([], .broken e) := by
  rw [drain]
  split <;> simp_all

theorem drain_frame {bytes rest : List UInt8} {p : Pdu} (h : scan bytes = .frame (.ok p) rest) :
    drain bytes = (p :: (drain rest).1, (drain rest).2) := by
  rw [drain]
  split <;> simp_all

namespace Intake

def ofBytes (bytes : List UInt8) : Intake := ⟨(drain bytes).1, (drain bytes).2⟩

theorem ofBytes_nil : ofBytes [] = empty := by
  rw [ofBytes, drain_unfinished scan_nil]
  rfl

theorem feed_cons (p : Pdu) (received : List Pdu) (tail : Tail) (piece : List UInt8) :
    (Intake.mk (p :: received) tail).feed piece =
      ⟨p :: ((Intake.mk received tail).feed piece).received,
        ((Intake.mk received tail).feed piece).tail⟩ := by
  cases tail <;> rfl

theorem feed_ofBytes (bytes piece : List UInt8) :
    (ofBytes bytes).feed piece = ofBytes (bytes ++ piece) := by
  fun_induction drain bytes with
  | case1 bytes h =>
      rw [ofBytes, drain_unfinished h]
      simp [feed, ofBytes]
  | case2 bytes e rest h =>
      rw [ofBytes, drain_error h, ofBytes, drain_error (scan_append h piece)]
      rfl
  | case3 bytes p rest h hl r ih =>
      rw [ofBytes, drain_frame h, feed_cons, ofBytes, drain_frame (scan_append h piece)]
      simp only [ofBytes] at ih
      rw [ih]

theorem foldl_feed (pieces : List (List UInt8)) :
    pieces.foldl feed empty = ofBytes pieces.flatten := by
  have h (bytes : List UInt8) :
      pieces.foldl feed (ofBytes bytes) = ofBytes (bytes ++ pieces.flatten) := by
    induction pieces generalizing bytes with
    | nil => simp
    | cons piece pieces ih => simp [feed_ofBytes, ih]
  rw [← ofBytes_nil]
  exact h []

end Intake

def Framed (p : Pdu) : Prop := (pdu.encode p).length ≤ maxLength

instance (p : Pdu) : Decidable (Framed p) := inferInstanceAs (Decidable (_ ≤ _))

theorem ofPdu_written {p : Pdu} (h : Framed p) : ofPdu p = .ok (written p) := by
  have hf := ofPdu_eq_ok_iff.2 ⟨h, rfl⟩
  rw [written, hf]

theorem written_eq_nil {p : Pdu} (h : ¬ Framed p) : written p = [] := by
  rw [written, ofPdu_eq_error_iff.2 ⟨Nat.not_le.1 h, rfl⟩]

def framed (ps : List Pdu) : List Pdu := ps.filter (Framed ·)

def stream (ps : List Pdu) : List UInt8 := ps.flatMap written

theorem stream_framed (ps : List Pdu) : stream (framed ps) = stream ps := by
  induction ps with
  | nil => rfl
  | cons p ps ih =>
      by_cases h : Framed p
      · simpa [stream, framed, h] using ih
      · simpa [stream, framed, h, written_eq_nil h] using ih

theorem length_stream_take_succ (p : Pdu) (ps : List Pdu) (m : Nat) :
    (stream ((p :: ps).take (m + 1))).length =
      (written p).length + (stream (ps.take m)).length := by
  simp [stream]

theorem drain_take_stream {ps : List Pdu} (hps : ∀ p ∈ ps, Framed p) {k : Nat}
    (hk : k ≤ (stream ps).length) :
    ∃ n, n ≤ ps.length ∧ (∀ m, m ≤ ps.length → ((stream (ps.take m)).length ≤ k ↔ m ≤ n)) ∧
      ∃ rest, drain ((stream ps).take k) = (ps.take n, .waiting rest) ∧
        rest.length = k - (stream (ps.take n)).length := by
  induction ps generalizing k with
  | nil =>
      refine ⟨0, by simp, by simp [stream], [], ?_, by simp [stream] at hk ⊢; omega⟩
      rw [stream, List.flatMap_nil, List.take_nil, drain_unfinished scan_nil]
      rfl
  | cons p ps ih =>
      have hp := ofPdu_written (hps p List.mem_cons_self)
      have hs : stream (p :: ps) = written p ++ stream ps := by simp [stream]
      rw [hs, List.length_append] at hk
      by_cases hw : (written p).length ≤ k
      · obtain ⟨n, hn, hm, rest, hd, hr⟩ := ih (fun q hq => hps q (List.mem_cons_of_mem p hq))
          (k := k - (written p).length) (by omega)
        refine ⟨n + 1, by simpa using hn, ?_, rest, ?_, ?_⟩
        · intro m hml
          cases m with
          | zero => simp [stream]
          | succ m =>
              have := hm m (by simpa using hml)
              rw [length_stream_take_succ]
              omega
        · rw [hs, List.take_append, List.take_of_length_le hw, drain_frame (scan_frame hp _), hd]
          rfl
        · rw [length_stream_take_succ]
          omega
      · have hk' := Nat.not_le.1 hw
        refine ⟨0, by simp, ?_, (written p).take k, ?_, ?_⟩
        · intro m _
          cases m with
          | zero => simp [stream]
          | succ m =>
              rw [length_stream_take_succ]
              omega
        · rw [hs, List.take_append_of_le_length (Nat.le_of_lt hk'),
            drain_unfinished (scan_take_frame hp hk')]
          rfl
        · simp [stream]
          omega

/-- Messages are written one after another, those too long for a frame leaving no bytes, and the
first `k` bytes arrive in any pieces. Then the messages come out whose frames are whole within those
bytes. The stream ends cleanly unless the head of a further frame is among them. -/
theorem cut_stream_received (ps : List Pdu) {k : Nat} (hk : k ≤ (stream ps).length)
    (pieces : List (List UInt8)) (hp : pieces.flatten = (stream ps).take k) :
    (∀ p, p ∈ ps → p ∉ framed ps →
      ofPdu p = .error (.frameTooLarge (pdu.encode p).length) ∧ written p = []) ∧
      ∃ n, n ≤ (framed ps).length ∧
        (∀ m, m ≤ (framed ps).length → ((stream ((framed ps).take m)).length ≤ k ↔ m ≤ n)) ∧
        (pieces.foldl Intake.feed .empty).received = (framed ps).take n ∧
        (pieces.foldl Intake.feed .empty).atEnd =
          if k - (stream ((framed ps).take n)).length < headLength then none
          else some .cutShort := by
  constructor
  · intro p hp hf
    have h : ¬ Framed p := fun h => hf (List.mem_filter.2 ⟨hp, by simpa using h⟩)
    exact ⟨ofPdu_eq_error_iff.2 ⟨Nat.not_le.1 h, rfl⟩, written_eq_nil h⟩
  · rw [← stream_framed ps] at hk hp
    have hall : ∀ p ∈ framed ps, Framed p := fun p hp => by simpa using (List.mem_filter.1 hp).2
    obtain ⟨n, hn, hm, rest, hd, hr⟩ := drain_take_stream hall hk
    have hf : pieces.foldl Intake.feed .empty = ⟨(framed ps).take n, .waiting rest⟩ := by
      rw [Intake.foldl_feed, hp, Intake.ofBytes, hd]
    refine ⟨n, hn, hm, ?_⟩
    rw [hf]
    exact ⟨rfl, by simp only [Intake.atEnd, hr]⟩

theorem cut_second_body_received :
    let ps : List Pdu :=
      [.setupFailure ⟨.misc .hardwareFailure⟩, .setupFailure ⟨.misc .omIntervention⟩]
    let pieces := [[0, 0, 0, 12, 2, 0], [0, 0, 3, 0, 0, 0, 1, 0, 0, 0, 0, 0, 0], [12, 2]]
    21 ≤ (stream ps).length ∧ pieces.flatten = (stream ps).take 21 ∧
      (pieces.foldl Intake.feed .empty).received = ps.take 1 ∧
      (pieces.foldl Intake.feed .empty).atEnd = some .cutShort := by
  intro ps pieces
  have hk : 21 ≤ (stream ps).length := by decide
  have hp : pieces.flatten = (stream ps).take 21 := by decide
  have hf : framed ps = ps := by decide
  obtain ⟨-, n, hn, hm, hr, he⟩ := cut_stream_received ps hk pieces hp
  rw [hf] at hn hm hr he
  have h1 : 1 ≤ n := (hm 1 (by decide)).1 (by decide)
  have h2 : ¬ 2 ≤ n := fun h => absurd ((hm 2 (by decide)).2 h) (by decide)
  obtain rfl : n = 1 := by omega
  exact ⟨hk, hp, hr, he.trans (by decide)⟩

end E2Node.Frame
