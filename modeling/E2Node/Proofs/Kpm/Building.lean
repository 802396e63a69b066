import E2Node.Proofs.Agent.Replies
import E2Node.Proofs.Kpm.Sequence

namespace E2Node

namespace Wire.Codec

theorem u32_encode_length (a : UInt32) : (u32.encode a).length = 4 :=
  length_leBytes 4 a.toNat

theorem u64_encode_length (a : UInt64) : (u64.encode a).length = 8 :=
  length_leBytes 8 a.toNat

theorem octetTriple_encode_length (o : Octets) : (octetTriple.encode o).length = 3 := rfl

theorem text_encode_length (s : String) : (text.encode s).length = 8 + s.utf8ByteSize := by
  rw [← length_toUTF8]
  exact octets_encode_length s.toUTF8.toList

theorem indication_encode_length_le {i : Indication} {m n : Nat} (hh : i.header.length ≤ m)
    (hm : i.message.length ≤ n) (hc : i.callProcess = none) :
    (indication.encode i).length ≤ 37 + m + n := by
  have hr := requestId_atMost i.request
  have hf := functionId_atMost i.function
  have ha := actionId_atMost i.action
  have hs := option_atMost u32_atMost i.sequenceNumber
  have ht : (indicationType.encode i.type).length ≤ 4 := oneOf_atMost _ i.type
  have hn : ((option octets).encode i.callProcess).length = 1 := by
    rw [hc]
    rfl
  change ((requestId.pair (functionId.pair (actionId.pair ((option u32).pair
    (indicationType.pair (octets.pair (octets.pair (option octets)))))))).encode
      (i.request, i.function, i.action, i.sequenceNumber, i.type, i.header, i.message,
        i.callProcess)).length ≤ _
  simp only [pair_encode_length, octets_encode_length]
  omega

end Wire.Codec

namespace Kpm

open Wire.Codec

variable {k : Service}

def headerLength : Nat := 42

theorem header_fault? (k : Service) (time : Int64) : (k.header time).fault? = none := by
  have hs : isOctetText "1".toList = true := by decide
  have hd : "SD1".utf8ByteSize = 3 := by decide
  simp only [Header.fault?, Service.header, hs, hd, Bool.not_true]
  rfl

theorem headerCodec_encode_length (k : Service) (time : Int64) :
    (headerCodec.encode (k.header time)).length = headerLength := by
  have hs : "1".utf8ByteSize = 1 := by decide
  have hd : "SD1".utf8ByteSize = 3 := by decide
  have ht : (i64.encode time).length = 8 := u64_encode_length _
  change ((octetTriple.pair (u64.pair (text.pair (text.pair (octetTriple.pair i64))))).encode
    (k.node.plmn.encode, k.node.gnb.val, "1", "SD1", k.node.plmn.encode, time)).length = _
  simp only [pair_encode_length, octetTriple_encode_length, u64_encode_length,
    text_encode_length, hs, hd, ht]
  rfl

theorem header_built (hk : k.codec = .standard) (time : Int64) :
    ∃ h, k.codec.header (k.header time) = .ok h ∧ h.length = headerLength := by
  refine ⟨_, ?_, headerCodec_encode_length k time⟩
  rw [hk]
  simp only [ElementCodec.standard, checked, header_fault?]

theorem measurement_built (hk : k.codec = .standard) (m : Measurement) :
    ∃ b, k.codec.measurement m = .ok b ∧ b.length = 4 :=
  ⟨_, by rw [hk]; rfl, u32_encode_length m.activeUes⟩

theorem checked_eq_ok {i : Indication} (hf : ¬ RanFunctionId.max < i.function.val)
    (hh : i.header ≠ []) (hm : i.message ≠ []) : i.checked = .ok i := by
  simp [Indication.checked, Indication.fault?, hf, hh, hm]

/-- A task with a header in hand and a function in range reports on any entry that it finds. -/
theorem report_built (hk : k.codec = .standard) (s : Reporting) {t : ReportTask} {r : Rhythm}
    {u : Subscription} (hf : ¬ RanFunctionId.max < t.key.function.val)
    (hh : r.header.length = headerLength) (hu : u.accepted ≠ []) :
    ∃ x frame, s.reportFor k t r u = some (.ok x) ∧ Frame.ofPdu (.indication x) = .ok frame := by
  obtain ⟨action, rest, ha⟩ := List.exists_cons_of_ne_nil hu
  obtain ⟨message, hm, hl⟩ := measurement_built hk (measurement s.population.size)
  have hx : (report t.key action r message).checked = .ok (report t.key action r message) := by
    refine checked_eq_ok hf (fun he => ?_) fun he => ?_
    · rw [show r.header = [] from he] at hh
      cases hh
    · rw [show message = [] from he] at hl
      cases hl
  have hb : Frame.Framed (.indication (report t.key action r message)) :=
    Frame.framed_of_le (n := 37 + headerLength + 4)
      (indication_encode_length_le (Nat.le_of_eq hh) (Nat.le_of_eq hl) rfl) (by decide)
  refine ⟨report t.key action r message, _, ?_, if_neg (Nat.not_lt.2 hb)⟩
  simp only [Reporting.reportFor, ha, hm, hx]

end Kpm

end E2Node
