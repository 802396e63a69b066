import E2Node.Proofs.E2ap.Exact

namespace E2Node.Frame

open Wire Wire.Codec

theorem readBody_eq_ok_iff {p : Pdu} {body : List UInt8} :
    readBody body = .ok p ↔ p.Fits ∧ ∃ rest, body = pdu.encode p ++ rest := by
  rw [← pdu_exact.read_eq_ok_iff, readBody]
  cases pdu.read body <;> simp [Except.mapError]

@[simp]
theorem length_head (n : Nat) : (head n).length = headLength := by
  simp [head]

theorem head_eq (n : Nat) : head n =
    [UInt8.ofNat (n / 16777216), UInt8.ofNat (n / 65536), UInt8.ofNat (n / 256), UInt8.ofNat n] := by
  simp [head, headLength, leBytes, Nat.div_div_eq_div_mul]

theorem ofPdu_eq_ok_iff {p : Pdu} {frame : List UInt8} : ofPdu p = .ok frame ↔
    (pdu.encode p).length ≤ maxLength ∧ frame = head (pdu.encode p).length ++ pdu.encode p := by
  rw [ofPdu]
  by_cases h : maxLength < (pdu.encode p).length
  · simp [h, Nat.not_le.2 h]
  · simp [h, Nat.not_lt.1 h, eq_comm]

theorem ofPdu_eq_error_iff {p : Pdu} {e : SessionError} : ofPdu p = .error e ↔
    maxLength < (pdu.encode p).length ∧ e = .frameTooLarge (pdu.encode p).length := by
  rw [ofPdu]
  by_cases h : maxLength < (pdu.encode p).length
  · simp [h, eq_comm]
  · simp [h]

theorem leValue_head {n : Nat} (h : n ≤ maxLength) : leValue (head n).reverse = n := by
  have hn : n < 256 ^ headLength := Nat.lt_of_le_of_lt h (by decide)
  rw [head, List.reverse_reverse, leValue_leBytes _ _ hn]

/-- A body holds one message, followed by anything, and no message has two bodies. A frame is its
body behind the body's length, and exists just for bodies within the limit. -/
theorem body_holds_iff_encoded (p : Pdu) :
    (∀ body, readBody body = .ok p ↔ p.Fits ∧ ∃ rest, body = pdu.encode p ++ rest) ∧
      (∀ frame, ofPdu p = .ok frame ↔ (pdu.encode p).length ≤ maxLength ∧
        frame = [UInt8.ofNat ((pdu.encode p).length / 16777216),
          UInt8.ofNat ((pdu.encode p).length / 65536), UInt8.ofNat ((pdu.encode p).length / 256),
          UInt8.ofNat (pdu.encode p).length] ++ pdu.encode p) ∧
      ∀ e, ofPdu p = .error e ↔ maxLength < (pdu.encode p).length ∧
        e = .frameTooLarge (pdu.encode p).length := by
  refine ⟨fun body => readBody_eq_ok_iff, fun frame => ?_, fun e => ofPdu_eq_error_iff⟩
  rw [← head_eq]
  exact ofPdu_eq_ok_iff

example : ofPdu (.setupFailure ⟨.misc .hardwareFailure⟩) =
    .ok [0, 0, 0, 12, 2, 0, 0, 0, 3, 0, 0, 0, 1, 0, 0, 0] := by
  decide

theorem fits_of_encode_le {p : Pdu} (h : (pdu.encode p).length ≤ maxLength) : p.Fits :=
  pdu_exact.fits_of_countable (Nat.lt_of_le_of_lt h (by decide))

theorem scan_frame {p : Pdu} {frame : List UInt8} (h : ofPdu p = .ok frame) (rest : List UInt8) :
    scan (frame ++ rest) = .frame (.ok p) rest := by
  obtain ⟨hl, rfl⟩ := ofPdu_eq_ok_iff.1 h
  have hh := take_append (head (pdu.encode p).length) (pdu.encode p ++ rest)
  have hb := readBody_eq_ok_iff.2 ⟨fits_of_encode_le hl, [], (List.append_nil _).symm⟩
  rw [length_head] at hh
  simp only [scan, List.append_assoc, hh, leValue_head hl, scanBody, Nat.not_lt.2 hl, if_false,
    take_append, hb]

theorem take_short {n : Nat} (bytes : List UInt8) (h : bytes.length < n) :
    Wire.take n bytes = .error .ended := by
  simp [Wire.take, Nat.not_le.2 h]

theorem scan_take_frame {p : Pdu} {frame : List UInt8} (h : ofPdu p = .ok frame) {k : Nat}
    (hk : k < frame.length) : scan (frame.take k) = .unfinished := by
  obtain ⟨hl, rfl⟩ := ofPdu_eq_ok_iff.1 h
  simp only [List.length_append, length_head] at hk
  by_cases hk' : k < headLength
  · have := take_short (n := headLength) ((head (pdu.encode p).length ++ pdu.encode p).take k)
      (Nat.lt_of_le_of_lt (List.length_take_le _ _) hk')
    simp only [scan, this]
  · have hh := take_append (head (pdu.encode p).length)
      ((pdu.encode p).take (k - headLength))
    have hb := take_short (n := (pdu.encode p).length) ((pdu.encode p).take (k - headLength))
      (by rw [List.length_take]; omega)
    rw [length_head] at hh
    rw [List.take_append, length_head, List.take_of_length_le (by rw [length_head]; omega)]
    simp only [scan, hh, leValue_head hl, scanBody, Nat.not_lt.2 hl, if_false, hb]

end E2Node.Frame
