import E2Node.Proofs.E2ap.Stream

namespace E2Node.Frame

open Wire Wire.Codec

inductive Carries : List UInt8 → List Pdu → List UInt8 → Prop
  | nil (rest) : Carries rest [] rest
  | cons {p ps body bytes rest} (hl : body.length ≤ maxLength) (hb : readBody body = .ok p)
      (h : Carries bytes ps rest) : Carries (head body.length ++ body ++ bytes) (p :: ps) rest

/-- The messages of the longest front of whole frames that can be read. -/
def Longest (bytes : List UInt8) (ps : List Pdu) : Prop :=
  (∃ rest, Carries bytes ps rest) ∧ ∀ qs rest, Carries bytes qs rest → qs <+: ps

def Bad (bytes : List UInt8) : Prop := ∃ e rest, scan bytes = .frame (.error e) rest

variable {bytes rest rest' : List UInt8} {p : Pdu} {ps qs : List Pdu}

theorem head_leValue {top : List UInt8} (h : top.length = headLength) :
    head (leValue top.reverse) = top := by
  have hr := leBytes_leValue top.reverse
  rw [List.length_reverse, h] at hr
  rw [head, hr, List.reverse_reverse]

theorem scanBody_body {body : List UInt8} (hl : body.length ≤ maxLength) (rest : List UInt8) :
    scanBody body.length (body ++ rest) = .frame (readBody body) rest := by
  simp only [scanBody, Nat.not_lt.2 hl, if_false, take_append]

theorem scan_body {body : List UInt8} (hl : body.length ≤ maxLength) (rest : List UInt8) :
    scan (head body.length ++ body ++ rest) = .frame (readBody body) rest := by
  have ht := take_append (head body.length) (body ++ rest)
  rw [length_head] at ht
  simp only [scan, List.append_assoc, ht, leValue_head hl, scanBody_body hl]

theorem scan_eq_ok_iff : scan bytes = .frame (.ok p) rest ↔
    ∃ body, body.length ≤ maxLength ∧ readBody body = .ok p ∧
      bytes = head body.length ++ body ++ rest := by
  constructor
  · intro h
    rw [scan] at h
    split at h
    · cases h
    · rename_i top after ht
      obtain ⟨hn, rfl⟩ := eq_append_of_take ht
      rw [scanBody] at h
      split at h
      · cases h
      · rename_i hl
        split at h
        · cases h
        · rename_i body rest' hb
          obtain ⟨hk, rfl⟩ := eq_append_of_take hb
          injection h with hp hr
          refine ⟨body, hk ▸ Nat.not_lt.1 hl, hp, ?_⟩
          rw [hk, head_leValue hn, hr, List.append_assoc]
  · rintro ⟨body, hl, hb, rfl⟩
    rw [scan_body hl, hb]

theorem Carries.scan (h : Carries bytes (p :: ps) rest) :
    ∃ after, scan bytes = .frame (.ok p) after ∧ Carries after ps rest := by
  cases h with
  | cons hl hb h => exact ⟨_, by rw [scan_body hl, hb], h⟩

theorem Carries.next {after : List UInt8} (hs : Frame.scan bytes = .frame (.ok p) after)
    (h : Carries after ps rest) : Carries bytes (p :: ps) rest := by
  obtain ⟨body, hl, hb, rfl⟩ := scan_eq_ok_iff.1 hs
  exact .cons hl hb h

theorem Carries.trans {after : List UInt8} (h : Carries bytes ps after)
    (h' : Carries after qs rest) : Carries bytes (ps ++ qs) rest := by
  induction h with
  | nil => exact h'
  | cons hl hb _ ih => exact .cons hl hb (ih h')

theorem Carries.append (h : Carries bytes ps rest) (more : List UInt8) :
    Carries (bytes ++ more) ps (rest ++ more) := by
  induction h with
  | nil => exact .nil _
  | cons hl hb _ ih =>
      rw [List.append_assoc]
      exact .cons hl hb ih

theorem Bad.append (h : Bad bytes) (more : List UInt8) : Bad (bytes ++ more) := by
  obtain ⟨e, rest, hs⟩ := h
  exact ⟨e, rest ++ more, scan_append hs more⟩

theorem Carries.front (h : Carries bytes ps rest)
    (hr : ∀ p after, Frame.scan rest ≠ .frame (.ok p) after) (h' : Carries bytes qs rest') :
    qs <+: ps := by
  induction h generalizing qs with
  | nil =>
      cases qs with
      | nil => exact List.nil_prefix
      | cons q qs =>
          obtain ⟨after, hs, -⟩ := h'.scan
          exact absurd hs (hr q after)
  | cons hl hb _ ih =>
      cases qs with
      | nil => exact List.nil_prefix
      | cons q qs =>
          obtain ⟨after, hs, hc⟩ := h'.scan
          rw [scan_body hl, hb] at hs
          cases hs
          exact List.cons_prefix_cons.2 ⟨rfl, ih hr hc⟩

theorem Longest.unique (h : Longest bytes ps) (h' : Longest bytes qs) : ps = qs := by
  obtain ⟨⟨_, hc⟩, hl⟩ := h
  obtain ⟨⟨_, hc'⟩, hl'⟩ := h'
  exact (hl' _ _ hc).eq_of_length_le (hl _ _ hc').length_le

end E2Node.Frame
