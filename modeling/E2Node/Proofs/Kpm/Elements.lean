import E2Node.Kpm.Element
import E2Node.Proofs.E2ap.Exact
import Mathlib.Data.Nat.Digits.Lemmas

namespace E2Node

namespace Wire

theorem leBytes_prefix_iff {n : Nat} (hn : n < 256 ^ 4) {bytes : List UInt8} :
    (∃ rest, bytes = leBytes 4 n ++ rest) ↔ ∃ a b c d rest, bytes = a :: b :: c :: d :: rest ∧
      n = a.toNat + 256 * b.toNat + 65536 * c.toNat + 16777216 * d.toNat := by
  constructor
  · rintro ⟨rest, rfl⟩
    refine ⟨_, _, _, _, rest, rfl, ?_⟩
    simp only [UInt8.toNat_ofNat']
    omega
  · rintro ⟨a, b, c, d, rest, rfl, rfl⟩
    have hv : a.toNat + 256 * b.toNat + 65536 * c.toNat + 16777216 * d.toNat =
        leValue [a, b, c, d] := by
      simp only [leValue]
      omega
    exact ⟨rest, by rw [hv, show 4 = [a, b, c, d].length from rfl, leBytes_leValue]; rfl⟩

namespace Codec

theorem i32_exact : i32.Exact fun _ => True :=
  of_exact u32_exact ⟨Int32.toUInt32, UInt32.toInt32, fun _ => rfl, fun _ => rfl⟩

theorem i64_exact : i64.Exact fun _ => True :=
  of_exact u64_exact ⟨Int64.toUInt64, UInt64.toInt64, fun _ => rfl, fun _ => rfl⟩

end Codec

end Wire

namespace Kpm

open Wire Wire.Codec

structure Description.Fits (d : Description) : Prop where
  shortName : Countable d.shortName.utf8ByteSize
  oid : Countable d.oid.utf8ByteSize
  description : Countable d.description.utf8ByteSize
  triggerStyles : Countable d.triggerStyles.length
  triggerNames : ∀ s ∈ d.triggerStyles, Countable s.name.utf8ByteSize
  reportStyles : Countable d.reportStyles.length
  reportNames : ∀ s ∈ d.reportStyles, Countable s.name.utf8ByteSize

theorem triggerStyleCodec_exact :
    triggerStyleCodec.Exact fun s => Countable s.name.utf8ByteSize :=
  (of_exact (pair_exact i32_exact (pair_exact text_exact i32_exact)) _).congr
    (by simp [TriggerStyle.parts])

theorem reportStyleCodec_exact :
    reportStyleCodec.Exact fun s => Countable s.name.utf8ByteSize :=
  (of_exact (pair_exact i32_exact (pair_exact text_exact (pair_exact i32_exact i32_exact))) _).congr
    (by simp [ReportStyle.parts])

theorem descriptionCodec_exact : descriptionCodec.Exact Description.Fits := by
  refine (of_exact (pair_exact text_exact (pair_exact text_exact (pair_exact text_exact
    (pair_exact i32_exact (pair_exact (list_exact triggerStyleCodec_exact)
      (list_exact reportStyleCodec_exact)))))) _).congr fun d => ?_
  constructor
  · rintro ⟨hs, ho, hd, -, ⟨ht, hts⟩, hr, hrs⟩
    exact ⟨hs, ho, hd, ht, hts, hr, hrs⟩
  · rintro ⟨hs, ho, hd, ht, hts, hr, hrs⟩
    exact ⟨hs, ho, hd, trivial, ⟨ht, hts⟩, hr, hrs⟩

theorem triggerCodec_exact : triggerCodec.Exact fun _ => True := of_exact u32_exact _

theorem headerCodec_exact : headerCodec.Exact fun h =>
    Countable h.sliceType.utf8ByteSize ∧ Countable h.sliceDifferentiator.utf8ByteSize :=
  (of_exact (pair_exact octetTriple_exact (pair_exact u64_exact (pair_exact text_exact
    (pair_exact text_exact (pair_exact octetTriple_exact i64_exact))))) _).congr
      (by simp [Header.parts])

theorem measurementCodec_exact : measurementCodec.Exact fun _ => True := of_exact u32_exact _

def digitsValue (digits : List Char) : Nat :=
  Nat.ofDigits 10 (digits.reverse.map fun c => c.toNat - '0'.toNat)

structure IsOctetDigits (digits : List Char) : Prop where
  nonempty : digits ≠ []
  isDigit : ∀ c ∈ digits, c.isDigit = true
  value_le : digitsValue digits ≤ 255

def IsOctetNumeral (text : String) : Prop :=
  ∃ digits, (text.toList = digits ∨ text.toList = '+' :: digits) ∧ IsOctetDigits digits

theorem digitsValue_cons (c : Char) (cs : List Char) :
    digitsValue (c :: cs) = (c.toNat - '0'.toNat) * 10 ^ cs.length + digitsValue cs := by
  simp only [digitsValue, List.reverse_cons, List.map_append, Nat.ofDigits_append, List.length_map,
    List.length_reverse, List.map_cons, List.map_nil, Nat.ofDigits_singleton]
  rw [Nat.add_comm, Nat.mul_comm]

theorem decimal?_eq_some_iff {acc n : Nat} {cs : List Char} : decimal? acc cs = some n ↔
    (∀ c ∈ cs, c.isDigit = true) ∧ acc * 10 ^ cs.length + digitsValue cs = n := by
  induction cs generalizing acc with
  | nil =>
      have hv : acc * 10 ^ ([] : List Char).length + digitsValue [] = acc := Nat.mul_one acc
      rw [hv, decimal?, Option.some_inj]
      exact ⟨fun h => ⟨nofun, h⟩, And.right⟩
  | cons c cs ih =>
      have hv : (10 * acc + (c.toNat - 48)) * 10 ^ cs.length + digitsValue cs =
          acc * 10 ^ (c :: cs).length + digitsValue (c :: cs) := by
        rw [digitsValue_cons, List.length_cons, show '0'.toNat = 48 from rfl]
        ring
      have hd : '0' ≤ c ∧ c ≤ '9' ↔ c.isDigit = true := Char.isDigit_iff_toNat.symm
      rw [decimal?, List.forall_mem_cons]
      by_cases hc : c.isDigit = true
      · rw [if_pos (hd.2 hc), ih, hv]
        exact ⟨fun h => ⟨⟨hc, h.1⟩, h.2⟩, fun h => ⟨h.1.2, h.2⟩⟩
      · rw [if_neg (mt hd.1 hc)]
        exact ⟨nofun, fun h => absurd h.1.1 hc⟩

theorem isOctetDigits_iff {cs : List Char} :
    IsOctetDigits cs ↔ cs ≠ [] ∧ ∃ n ≤ 255, decimal? 0 cs = some n := by
  simp only [decimal?_eq_some_iff, Nat.zero_mul, Nat.zero_add]
  constructor
  · rintro ⟨hne, hd, hv⟩
    exact ⟨hne, _, hv, hd, rfl⟩
  · rintro ⟨hne, _, hv, hd, rfl⟩
    exact ⟨hne, hd, hv⟩

theorem isOctetText_plus {cs : List Char} : isOctetText ('+' :: cs) = true ↔ IsOctetDigits cs := by
  rw [isOctetDigits_iff]
  cases cs with
  | nil => simp [isOctetText]
  | cons c cs => cases h : decimal? 0 (c :: cs) <;> simp [isOctetText, h]

theorem isOctetText_plain {cs : List Char} (hp : ∀ rest, cs ≠ '+' :: rest) :
    isOctetText cs = true ↔ IsOctetDigits cs := by
  rw [isOctetDigits_iff]
  cases cs with
  | nil => simp [isOctetText]
  | cons c cs =>
      cases h : decimal? 0 (c :: cs) <;> simp [isOctetText, h]

theorem isOctetText_iff {text : String} : isOctetText text.toList = true ↔ IsOctetNumeral text := by
  by_cases hp : ∃ rest, text.toList = '+' :: rest
  · obtain ⟨rest, hr⟩ := hp
    rw [IsOctetNumeral, hr, isOctetText_plus]
    constructor
    · exact fun h => ⟨rest, .inr rfl, h⟩
    · rintro ⟨digits, rfl | he, h⟩
      · exact absurd (h.isDigit '+' List.mem_cons_self) (by decide)
      · obtain ⟨-, rfl⟩ := List.cons.inj he
        exact h
  · rw [isOctetText_plain fun rest hr => hp ⟨rest, hr⟩]
    constructor
    · exact fun h => ⟨_, .inl rfl, h⟩
    · rintro ⟨digits, rfl | he, h⟩
      · exact h
      · exact absurd ⟨digits, he⟩ hp

section

variable {α : Type} {fault? : α → Option CodecError} {c : Wire.Codec α} {a : α} {bs : List UInt8}

theorem checked_eq_ok_iff : checked fault? c a = .ok bs ↔ fault? a = none ∧ bs = c.encode a := by
  rw [checked]
  cases fault? a <;> simp [eq_comm]

theorem checked_eq_error_iff {e : CodecError} :
    checked fault? c a = .error e ↔ fault? a = some e := by
  rw [checked]
  cases fault? a <;> simp

/-- What is written tells what it was written for, with anything behind it. -/
def PrefixFree (Fits : α → Prop) (write : α → Except CodecError (List UInt8)) : Prop :=
  ∀ a b bs bs', Fits a → Fits b → write a = .ok bs → write b = .ok bs' → bs <+: bs' → a = b

theorem prefixFree_checked {Fits : α → Prop} (hc : c.Exact Fits) (fault? : α → Option CodecError) :
    PrefixFree Fits (checked fault? c) := by
  intro a b bs bs' ha hb hw hw' hp
  obtain ⟨-, rfl⟩ := checked_eq_ok_iff.1 hw
  obtain ⟨-, rfl⟩ := checked_eq_ok_iff.1 hw'
  exact hc.eq_of_prefix ha hb hp

end

theorem EventTrigger.fault?_eq_none_iff {t : EventTrigger} :
    t.fault? = none ↔ t.periodMillis ≠ 0 := by
  simp [fault?]

theorem readTrigger_eq_ok_iff {bytes : List UInt8} {t : EventTrigger} :
    readTrigger bytes = .ok t ↔ t.fault? = none ∧ ∃ rest, bytes = triggerCodec.encode t ++ rest := by
  have hr : triggerCodec.read bytes = .ok t ↔ ∃ rest, bytes = triggerCodec.encode t ++ rest := by
    rw [triggerCodec_exact.read_eq_ok_iff, true_and]
  rw [← hr, readTrigger]
  cases triggerCodec.read bytes with
  | error e => simp
  | ok u =>
      cases hf : u.fault? with
      | none =>
          simp only [hf, Except.ok.injEq]
          exact ⟨fun h => ⟨h ▸ hf, h⟩, And.right⟩
      | some e =>
          simp only [hf, Except.ok.injEq]
          refine iff_of_false nofun ?_
          rintro ⟨ht, rfl⟩
          cases ht.symm.trans hf

theorem Header.fault?_eq (h : Header) :
    (h.fault? = none ↔ IsOctetNumeral h.sliceType ∧ h.sliceDifferentiator.utf8ByteSize = 3) ∧
    (¬ IsOctetNumeral h.sliceType → h.fault? =
      some (.field "sst" (Quoted.ofString h.sliceType ++ " is not an 8-bit value"))) ∧
    (IsOctetNumeral h.sliceType → h.sliceDifferentiator.utf8ByteSize ≠ 3 → h.fault? =
      some (.field "sd" (Quoted.ofString h.sliceDifferentiator ++ " is not 3 octets"))) := by
  rw [Header.fault?]
  simp only [← isOctetText_iff]
  by_cases hs : isOctetText h.sliceType.toList = true
  · by_cases hd : h.sliceDifferentiator.utf8ByteSize = 3 <;> simp [hs, hd]
  · simp [hs]

theorem Description.fault?_eq (d : Description) :
    (d.fault? = none ↔ d.shortName ≠ "" ∧ d.oid ≠ "" ∧
      (∀ s ∈ d.reportStyles, s.name ≠ "") ∧ ∀ s ∈ d.triggerStyles, s.name ≠ "") ∧
    (d.shortName = "" → d.fault? = some (.field "short name" "empty")) ∧
    (d.shortName ≠ "" → d.oid = "" → d.fault? = some (.field "oid" "empty")) ∧
    (d.shortName ≠ "" → d.oid ≠ "" →
      (∃ s ∈ d.reportStyles, s.name = "") ∨ (∃ s ∈ d.triggerStyles, s.name = "") →
        d.fault? = some (.field "style name" "empty")) := by
  have hstyles : (d.reportStyles.any (·.name.isEmpty) || d.triggerStyles.any (·.name.isEmpty)) =
      true ↔ (∃ s ∈ d.reportStyles, s.name = "") ∨ ∃ s ∈ d.triggerStyles, s.name = "" := by
    simp [String.isEmpty_iff]
  have hnamed : ((∀ s ∈ d.reportStyles, s.name ≠ "") ∧ ∀ s ∈ d.triggerStyles, s.name ≠ "") ↔
      ¬ ((∃ s ∈ d.reportStyles, s.name = "") ∨ ∃ s ∈ d.triggerStyles, s.name = "") := by
    simp [not_or]
  rw [Description.fault?, hnamed]
  simp only [String.isEmpty_iff, hstyles]
  by_cases hn : d.shortName = ""
  · simp [hn]
  · by_cases ho : d.oid = ""
    · simp [hn, ho]
    · by_cases hs : (∃ s ∈ d.reportStyles, s.name = "") ∨ ∃ s ∈ d.triggerStyles, s.name = "" <;>
        simp [hn, ho, hs]

/-- The elements that are written, and those that are read, are those that keep the rules, of which
the first one broken is reported. What is written of one element is never the front of what is
written of another. -/
theorem ElementCodec.standard_exact :
    (∀ bytes t, standard.readTrigger bytes = .ok t ↔ t.periodMillis ≠ 0 ∧
      ∃ a b c d rest, bytes = a :: b :: c :: d :: rest ∧ t.periodMillis.toNat =
        a.toNat + 256 * b.toNat + 65536 * c.toNat + 16777216 * d.toNat) ∧
    (∀ t bs, standard.trigger t = .ok bs → ∀ rest, standard.readTrigger (bs ++ rest) = .ok t) ∧
    (∀ t, (∃ bs, standard.trigger t = .ok bs) ↔ t.periodMillis ≠ 0) ∧
    (∀ h : Header,
      ((∃ bs, standard.header h = .ok bs) ↔
        IsOctetNumeral h.sliceType ∧ h.sliceDifferentiator.utf8ByteSize = 3) ∧
      (¬ IsOctetNumeral h.sliceType → standard.header h =
        .error (.field "sst" (Quoted.ofString h.sliceType ++ " is not an 8-bit value"))) ∧
      (IsOctetNumeral h.sliceType → h.sliceDifferentiator.utf8ByteSize ≠ 3 → standard.header h =
        .error (.field "sd" (Quoted.ofString h.sliceDifferentiator ++ " is not 3 octets")))) ∧
    (∀ d : Description,
      ((∃ bs, standard.description d = .ok bs) ↔ d.shortName ≠ "" ∧ d.oid ≠ "" ∧
        (∀ s ∈ d.reportStyles, s.name ≠ "") ∧ ∀ s ∈ d.triggerStyles, s.name ≠ "") ∧
      (d.shortName = "" → standard.description d = .error (.field "short name" "empty")) ∧
      (d.shortName ≠ "" → d.oid = "" → standard.description d = .error (.field "oid" "empty")) ∧
      (d.shortName ≠ "" → d.oid ≠ "" →
        (∃ s ∈ d.reportStyles, s.name = "") ∨ (∃ s ∈ d.triggerStyles, s.name = "") →
          standard.description d = .error (.field "style name" "empty"))) ∧
    PrefixFree Description.Fits standard.description ∧
    PrefixFree (fun _ => True) standard.trigger ∧
    PrefixFree (fun h : Header => Wire.Countable h.sliceType.utf8ByteSize) standard.header ∧
    PrefixFree (fun _ => True) standard.measurement := by
  have written {α : Type} {fault? : α → Option CodecError} (c : Wire.Codec α) (a : α) :
      (∃ bs, checked fault? c a = .ok bs) ↔ fault? a = none := by
    simp [checked_eq_ok_iff]
  refine ⟨fun bytes t => ?_, fun t bs h rest => ?_, fun t => ?_, fun h => ?_, fun d => ?_,
    prefixFree_checked descriptionCodec_exact _, prefixFree_checked triggerCodec_exact _, ?_, ?_⟩
  · exact readTrigger_eq_ok_iff.trans
      (and_congr EventTrigger.fault?_eq_none_iff (leBytes_prefix_iff t.periodMillis.toNat_lt))
  · obtain ⟨hf, rfl⟩ := checked_eq_ok_iff.1 h
    exact readTrigger_eq_ok_iff.2 ⟨hf, rest, rfl⟩
  · exact (written triggerCodec t).trans EventTrigger.fault?_eq_none_iff
  · obtain ⟨hnone, hsst, hsd⟩ := h.fault?_eq
    exact ⟨(written headerCodec h).trans hnone, fun hs => checked_eq_error_iff.2 (hsst hs),
      fun hs hd => checked_eq_error_iff.2 (hsd hs hd)⟩
  · obtain ⟨hnone, hname, hoid, hstyle⟩ := d.fault?_eq
    exact ⟨(written descriptionCodec d).trans hnone, fun hn => checked_eq_error_iff.2 (hname hn),
      fun hn ho => checked_eq_error_iff.2 (hoid hn ho),
      fun hn ho hs => checked_eq_error_iff.2 (hstyle hn ho hs)⟩
  · intro a b bs bs' ha hb hw hw' hp
    have three {h : Header} {bs : List UInt8} (hw : standard.header h = .ok bs) :
        Wire.Countable h.sliceDifferentiator.utf8ByteSize := by
      obtain ⟨hf, -⟩ := checked_eq_ok_iff.1 hw
      rw [Wire.Countable, (h.fault?_eq.1.1 hf).2]
      decide
    exact prefixFree_checked headerCodec_exact _ a b bs bs' ⟨ha, three hw⟩ ⟨hb, three hw'⟩ hw hw' hp
  · intro a b bs bs' _ _ hw hw' hp
    cases hw
    cases hw'
    exact measurementCodec_exact.eq_of_prefix trivial trivial hp

theorem ElementCodec.signed_numeral_exact :
    let h (numeral : String) : Header :=
      ⟨⟨0, 0xf1, 0x10⟩, 5152, numeral, "é1", ⟨0, 0xf1, 0x10⟩, 0⟩
    let d : Description := ⟨"KPM", "1.3.6", "", 1, [⟨1, "", 1⟩], [⟨1, "report", 1, 1⟩]⟩
    standard.readTrigger [0, 1, 0, 0, 9] = .ok ⟨256⟩ ∧
      (∃ bs, standard.header (h "+00255") = .ok bs) ∧
      (∀ bs bs', standard.header (h "+00255") = .ok bs → standard.header (h "00255") = .ok bs' →
        ¬ bs <+: bs') ∧
      standard.header (h "256") =
        .error (.field "sst" (Quoted.ofString "256" ++ " is not an 8-bit value")) ∧
      standard.description d = .error (.field "style name" "empty") := by
  intro h d
  obtain ⟨htrigger, -, -, hheader, hdescription, -, -, hfree, -⟩ := standard_exact
  have hs : IsOctetNumeral "+00255" := isOctetText_iff.1 (by decide)
  have hn : ¬ IsOctetNumeral "256" := fun hn => absurd (isOctetText_iff.2 hn) (by decide)
  have hd : (h "+00255").sliceDifferentiator.utf8ByteSize = 3 := by decide
  refine ⟨(htrigger _ _).2 ⟨by decide, 0, 1, 0, 0, [9], rfl, rfl⟩, (hheader _).1.2 ⟨hs, hd⟩, ?_,
    (hheader (h "256")).2.1 hn,
    (hdescription d).2.2.2 (by decide) (by decide) (.inr ⟨_, List.mem_cons_self, rfl⟩)⟩
  intro bs bs' hw hw' hp
  have hl : Wire.Countable "+00255".utf8ByteSize ∧ Wire.Countable "00255".utf8ByteSize := by
    unfold Wire.Countable
    decide
  exact absurd (hfree _ _ bs bs' hl.1 hl.2 hw hw' hp) (by decide)

end Kpm

end E2Node
