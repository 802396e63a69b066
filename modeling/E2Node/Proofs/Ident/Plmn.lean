import E2Node.Ident.Plmn
import E2Node.Proofs.Wire.Exact

namespace E2Node

theorem Octets.toNat_u24 (o : Octets) :
    o.u24.toNat = 65536 * o.first.toNat + 256 * o.second.toNat + o.third.toNat := by
  have h1 := o.first.toNat_lt
  have h2 := o.second.toNat_lt
  have h3 := o.third.toNat_lt
  simp only [u24, UInt32.toNat_add, UInt32.toNat_mul, UInt8.toNat_toUInt32, UInt32.reduceToNat]
  omega

theorem Octets.u24_inj {o o' : Octets} : o.u24 = o'.u24 ↔ o = o' := by
  refine ⟨fun h => ?_, congrArg u24⟩
  have hn := congrArg UInt32.toNat h
  rw [toNat_u24, toNat_u24] at hn
  have h1 := o.first.toNat_lt
  have h2 := o.second.toNat_lt
  have h3 := o.third.toNat_lt
  have h1' := o'.first.toNat_lt
  have h2' := o'.second.toNat_lt
  have h3' := o'.third.toNat_lt
  cases o
  cases o'
  simp only [mk.injEq, ← UInt8.toNat_inj]
  simp only at *
  omega

theorem Octets.toNat_u24_lt (o : Octets) : o.u24.toNat < 2 ^ 24 := by
  have h1 := o.first.toNat_lt
  have h2 := o.second.toNat_lt
  have h3 := o.third.toNat_lt
  rw [toNat_u24]
  omega

namespace Plmn

variable {text : String} {p q : Plmn}

theorem isSome_digit? {c : Char} : (digit? c).isSome = true ↔ c.isDigit = true := by
  rw [digit?, Char.isDigit_iff_toNat]
  split
  · rename_i h
    exact iff_of_true rfl h
  · rename_i h
    exact iff_of_false nofun h

theorem mapM_digit?_eq_some {cs : List Char} {ds : List UInt8} (h : cs.mapM digit? = some ds) :
    ds.length = cs.length ∧ ∀ c ∈ cs, c.isDigit = true := by
  induction cs generalizing ds with
  | nil =>
      cases h
      exact ⟨rfl, nofun⟩
  | cons c cs ih =>
      rw [List.mapM_cons] at h
      obtain ⟨d, hd, h⟩ := Option.bind_eq_some_iff.1 h
      obtain ⟨rest, hr, h⟩ := Option.bind_eq_some_iff.1 h
      cases h
      obtain ⟨hl, hc⟩ := ih hr
      refine ⟨congrArg (· + 1) hl, List.forall_mem_cons.2 ⟨?_, hc⟩⟩
      rw [← isSome_digit?, hd]
      rfl

theorem exists_mapM_digit? {cs : List Char} (h : ∀ c ∈ cs, c.isDigit = true) :
    ∃ ds, cs.mapM digit? = some ds := by
  induction cs with
  | nil => exact ⟨[], rfl⟩
  | cons c cs ih =>
      obtain ⟨hc, h⟩ := List.forall_mem_cons.1 h
      obtain ⟨d, hd⟩ := Option.isSome_iff_exists.1 (isSome_digit?.2 hc)
      obtain ⟨ds, hs⟩ := ih h
      exact ⟨d :: ds, by rw [List.mapM_cons, hd, hs]; rfl⟩

theorem isSome_ofDigits? : ∀ ds : List UInt8,
    (ofDigits? ds).isSome = true ↔ ds.length = 5 ∨ ds.length = 6
  | [] | [_] | [_, _] | [_, _, _] | [_, _, _, _] | [_, _, _, _, _] | [_, _, _, _, _, _] => by
      simp [ofDigits?]
  | _ :: _ :: _ :: _ :: _ :: _ :: _ :: ds => by
      simp [ofDigits?]

theorem parse_isOk_iff : (∃ p, parse text = .ok p) ↔
    (text.toList.length = 5 ∨ text.toList.length = 6) ∧ ∀ c ∈ text.toList, c.isDigit = true := by
  have hp : (∃ p, parse text = .ok p) ↔
      ((text.toList.mapM digit?).bind ofDigits?).isSome = true := by
    rw [parse]
    cases (text.toList.mapM digit?).bind ofDigits? <;> simp
  rw [hp]
  constructor
  · intro h
    obtain ⟨p, h⟩ := Option.isSome_iff_exists.1 h
    obtain ⟨ds, hm, ho⟩ := Option.bind_eq_some_iff.1 h
    obtain ⟨hl, hd⟩ := mapM_digit?_eq_some hm
    rw [← hl]
    exact ⟨(isSome_ofDigits? ds).1 (by rw [ho]; rfl), hd⟩
  · rintro ⟨hl, hd⟩
    obtain ⟨ds, hm⟩ := exists_mapM_digit? hd
    rw [← (mapM_digit?_eq_some hm).1] at hl
    rw [hm]
    exact (isSome_ofDigits? ds).2 hl

theorem utf8_eq_flatMap (s : String) : s.toUTF8.toList = s.toList.flatMap String.utf8EncodeChar := by
  have h : s.toUTF8 = ⟨(s.toList.flatMap String.utf8EncodeChar).toArray⟩ := by
    rw [String.toUTF8_eq_toByteArray, ← String.utf8Encode_toList, List.utf8Encode,
      ← List.data_toByteArray]
  rw [h, Wire.Codec.toList_mk]

theorem utf8EncodeChar_of_isDigit {c : Char} (h : c.isDigit = true) :
    String.utf8EncodeChar c = [UInt8.ofNat c.toNat] := by
  have hc : c.toNat ≤ 57 := (Char.isDigit_iff_toNat.1 h).2
  rw [String.utf8EncodeChar, if_pos (show c.val.toNat ≤ 127 from Nat.le_trans hc (by decide))]
  rfl

theorem forall_mem_utf8EncodeChar {c : Char} :
    (∀ b ∈ String.utf8EncodeChar c, 48 ≤ b ∧ b ≤ 57) ↔ c.isDigit = true := by
  have hc : c.isDigit = true ↔ 48 ≤ c.val.toNat ∧ c.val.toNat ≤ 57 := Char.isDigit_iff_toNat
  by_cases h : c.val.toNat ≤ 127
  · rw [String.utf8EncodeChar, if_pos h, List.forall_mem_singleton, UInt8.le_iff_toNat_le,
      UInt8.le_iff_toNat_le, UInt8.toNat_ofNat_of_lt' (show _ < 256 by omega), hc]
    rfl
  · have hl : ∃ front, String.utf8EncodeChar c =
        front ++ [UInt8.ofNat (c.val.toNat % 64 + 128)] := by
      rw [String.utf8EncodeChar, if_neg h]
      split_ifs
      · exact ⟨[_], rfl⟩
      · exact ⟨[_, _], rfl⟩
      · exact ⟨[_, _, _], rfl⟩
    obtain ⟨front, hl⟩ := hl
    refine iff_of_false (fun hb => ?_) (fun hd => ?_)
    · have h57 := UInt8.le_iff_toNat_le.1 (hb _ (by rw [hl]; exact List.mem_concat_self)).2
      rw [UInt8.toNat_ofNat_of_lt' (show _ < 256 by omega)] at h57
      have : c.val.toNat % 64 + 128 ≤ 57 := h57
      omega
    · have := (hc.1 hd).2
      omega

theorem forall_mem_utf8 (s : String) :
    (∀ b ∈ s.toUTF8.toList, 48 ≤ b ∧ b ≤ 57) ↔ ∀ c ∈ s.toList, c.isDigit = true := by
  rw [utf8_eq_flatMap, List.forall_mem_flatMap]
  exact forall₂_congr fun c _ => forall_mem_utf8EncodeChar

theorem utf8ByteSize_of_digits {s : String} (h : ∀ c ∈ s.toList, c.isDigit = true) :
    s.utf8ByteSize = s.toList.length := by
  rw [← Wire.Codec.length_toUTF8, utf8_eq_flatMap]
  generalize s.toList = cs at h
  induction cs with
  | nil => rfl
  | cons c cs ih =>
      obtain ⟨hc, h⟩ := List.forall_mem_cons.1 h
      rw [List.flatMap_cons, List.length_append, ih h, utf8EncodeChar_of_isDigit hc]
      exact Nat.add_comm _ _

def digits (p : Plmn) : List UInt8 := p.mcc.toList ++ p.mnc.toList.take p.mncLength.toNat

def numeral (d : UInt8) : Char := Nat.digitChar d.toNat

theorem toNat_digitChar : ∀ n < 10, (Nat.digitChar n).toNat = 48 + n := by decide

theorem digit?_eq_some_iff {c : Char} {d : UInt8} : digit? c = some d ↔ d ≤ 9 ∧ c = numeral d := by
  have hd : d ≤ 9 ↔ d.toNat < 10 := UInt8.le_iff_toNat_le.trans Nat.lt_succ_iff.symm
  have hc : '0' ≤ c ∧ c ≤ '9' ↔ 48 ≤ c.toNat ∧ c.toNat ≤ 57 := Iff.rfl
  rw [digit?, hd, numeral]
  constructor
  · intro h
    split at h
    · rename_i hr
      obtain ⟨h0, h9⟩ := hc.1 hr
      obtain rfl : UInt8.ofNat (c.toNat - 48) = d := Option.some.inj h
      have hn : (UInt8.ofNat (c.toNat - 48)).toNat = c.toNat - 48 :=
        UInt8.toNat_ofNat_of_lt' (show _ < 256 by omega)
      refine ⟨by omega, Char.toNat_inj.1 ?_⟩
      rw [hn, toNat_digitChar _ (by omega)]
      omega
    · cases h
  · rintro ⟨h, rfl⟩
    have hn := toNat_digitChar _ h
    rw [if_pos (hc.2 (by omega)), hn, Nat.add_sub_cancel_left, UInt8.ofNat_toNat]

theorem mapM_digit?_eq_some_iff {cs : List Char} {ds : List UInt8} :
    cs.mapM digit? = some ds ↔ (∀ d ∈ ds, d ≤ 9) ∧ cs = ds.map numeral := by
  induction cs generalizing ds with
  | nil => cases ds <;> simp
  | cons c cs ih =>
      rw [List.mapM_cons]
      constructor
      · intro h
        obtain ⟨d, hd, h⟩ := Option.bind_eq_some_iff.1 h
        obtain ⟨rest, hr, h⟩ := Option.bind_eq_some_iff.1 h
        cases h
        obtain ⟨h9, rfl⟩ := digit?_eq_some_iff.1 hd
        obtain ⟨h9s, rfl⟩ := ih.1 hr
        exact ⟨List.forall_mem_cons.2 ⟨h9, h9s⟩, rfl⟩
      · rintro ⟨h9, he⟩
        cases ds with
        | nil => cases he
        | cons d ds =>
            obtain ⟨h9, h9s⟩ := List.forall_mem_cons.1 h9
            obtain ⟨rfl, rfl⟩ := List.cons.inj he
            rw [digit?_eq_some_iff.2 ⟨h9, rfl⟩, ih.2 ⟨h9s, rfl⟩]
            rfl

theorem ofDigits?_eq_some {ds : List UInt8} (h : ofDigits? ds = some p) : p.digits = ds ∧
    ((∀ d ∈ ds, d ≤ 9) → p.WellFormed) := by
  unfold ofDigits? at h
  split at h <;> cases h
  · refine ⟨rfl, fun h9 => ?_⟩
    simp only [List.forall_mem_cons] at h9
    obtain ⟨ha, hb, hc, hd, he, -⟩ := h9
    exact ⟨⟨ha, hb, hc⟩, ⟨hd, he, UInt8.zero_le⟩, .inl rfl⟩
  · refine ⟨rfl, fun h9 => ?_⟩
    simp only [List.forall_mem_cons] at h9
    obtain ⟨ha, hb, hc, hd, he, hf, -⟩ := h9
    exact ⟨⟨ha, hb, hc⟩, ⟨hd, he, hf⟩, .inr rfl⟩

theorem parse_eq_ok (h : parse text = .ok p) :
    p.WellFormed ∧ text = String.ofList (p.digits.map numeral) := by
  rw [parse] at h
  split at h
  · rename_i hp
    cases h
    obtain ⟨ds, hm, ho⟩ := Option.bind_eq_some_iff.1 hp
    obtain ⟨h9, hs⟩ := mapM_digit?_eq_some_iff.1 hm
    obtain ⟨rfl, hw⟩ := ofDigits?_eq_some ho
    exact ⟨hw h9, by rw [← hs, String.ofList_toList]⟩
  · cases h

theorem join_numerals {ds : List UInt8} (h : ∀ d ∈ ds, d ≤ 9) :
    String.join (ds.map fun d => toString d.toNat) = String.ofList (ds.map numeral) := by
  induction ds with
  | nil => rfl
  | cons d ds ih =>
      obtain ⟨h9, h9s⟩ := List.forall_mem_cons.1 h
      have hd : toString d.toNat = String.ofList [numeral d] :=
        Nat.repr_of_lt (Nat.lt_succ_of_le (UInt8.le_iff_toNat_le.1 h9))
      rw [List.map_cons, String.join_cons, ih h9s, hd, ← String.ofList_append]
      rfl

theorem le_nine_of_mem_digits (h : p.WellFormed) {d : UInt8} (hd : d ∈ p.digits) : d ≤ 9 := by
  obtain ⟨⟨ha, hb, hc⟩, ⟨hd', he, hf⟩, -⟩ := h
  rcases List.mem_append.1 hd with hd | hd
  · simp only [Octets.toList, List.mem_cons, List.not_mem_nil, or_false] at hd
    rcases hd with rfl | rfl | rfl <;> assumption
  · have hd := List.mem_of_mem_take hd
    simp only [Octets.toList, List.mem_cons, List.not_mem_nil, or_false] at hd
    rcases hd with rfl | rfl | rfl <;> assumption

theorem text_eq (h : p.WellFormed) : p.text = String.ofList
    ((p.digits.map numeral).take 3 ++ '-' :: (p.digits.map numeral).drop 3) := by
  have hm : ∀ d ∈ p.mcc.toList, d ≤ 9 := fun d hd =>
    le_nine_of_mem_digits h (List.mem_append_left _ hd)
  have hn : ∀ d ∈ p.mnc.toList.take p.mncLength.toNat, d ≤ 9 := fun d hd =>
    le_nine_of_mem_digits h (List.mem_append_right _ hd)
  have h3 : (p.mcc.toList.map numeral).length = 3 := rfl
  rw [text, join_numerals hm, join_numerals hn, digits, List.map_append, List.take_left' h3,
    List.drop_left' h3, ← List.singleton_append, String.ofList_append, String.ofList_append,
    String.append_assoc]

theorem toNat_halves {a b : UInt8} (ha : a.toNat < 16) (hb : b.toNat < 16) :
    (a <<< 4 ||| b).toNat = 16 * a.toNat + b.toNat := by
  have h : (a <<< 4).toNat = a.toNat <<< 4 := by
    rw [UInt8.toNat_shiftLeft]
    refine Nat.mod_eq_of_lt ?_
    rw [Nat.shiftLeft_eq]
    exact Nat.mul_lt_mul_of_pos_right ha (by decide)
  rw [UInt8.toNat_or, h, ← Nat.shiftLeft_add_eq_or_of_lt hb, Nat.shiftLeft_eq, Nat.mul_comm]

theorem halves_inj {a b c d : UInt8} (ha : a.toNat < 16) (hb : b.toNat < 16) (hc : c.toNat < 16)
    (hd : d.toNat < 16) (h : a <<< 4 ||| b = c <<< 4 ||| d) : a = c ∧ b = d := by
  have hn := congrArg UInt8.toNat h
  rw [toNat_halves ha hb, toNat_halves hc hd] at hn
  exact ⟨UInt8.toNat_inj.1 (by omega), UInt8.toNat_inj.1 (by omega)⟩

def filler (p : Plmn) : UInt8 := if p.mncLength = 2 then 15 else p.mnc.third

theorem encode_second (p : Plmn) : p.encode.second = p.filler <<< 4 ||| p.mcc.third := by
  rw [encode, filler]
  split <;> rfl

theorem digits_of_two (h : p.mncLength = 2) :
    p.digits = p.mcc.toList ++ [p.mnc.first, p.mnc.second] := by
  rw [digits, h]
  rfl

theorem digits_of_three (h : p.mncLength = 3) :
    p.digits = p.mcc.toList ++ [p.mnc.first, p.mnc.second, p.mnc.third] := by
  rw [digits, h]
  rfl

theorem digits_eq_of_encode_eq (hp : p.WellFormed) (hq : q.WellFormed)
    (h : p.encode = q.encode) : p.digits = q.digits := by
  have small {d : UInt8} (hd : d ≤ 9) : d.toNat < 16 :=
    Nat.lt_of_le_of_lt (UInt8.le_iff_toNat_le.1 hd) (by decide)
  have hfill {p : Plmn} (hp : p.WellFormed) : p.filler.toNat < 16 := by
    rw [filler]
    split
    · decide
    · exact small hp.2.1.2.2
  obtain ⟨hp1, hp2, hp3⟩ := hp.1
  obtain ⟨hp4, hp5, hp6⟩ := hp.2.1
  obtain ⟨hq1, hq2, hq3⟩ := hq.1
  obtain ⟨hq4, hq5, hq6⟩ := hq.2.1
  obtain ⟨hb, ha⟩ := halves_inj (small hp2) (small hp1) (small hq2) (small hq1)
    (congrArg Octets.first h)
  obtain ⟨he, hd⟩ := halves_inj (small hp5) (small hp4) (small hq5) (small hq4)
    (congrArg Octets.third h)
  have hs := congrArg Octets.second h
  rw [encode_second, encode_second] at hs
  obtain ⟨hf, hc⟩ := halves_inj (hfill hp) (small hp3) (hfill hq) (small hq3) hs
  have hm : p.mcc.toList = q.mcc.toList := by
    rw [Octets.toList, ha, hb, hc]
    rfl
  have never {d : UInt8} (hd : d ≤ 9) : d ≠ 15 := by
    rintro rfl
    exact absurd hd (by decide)
  have h32 : (3 : UInt8) ≠ 2 := by decide
  rcases hp.2.2 with hp' | hp' <;> rcases hq.2.2 with hq' | hq'
  · rw [digits_of_two hp', digits_of_two hq', hm, hd, he]
  · rw [filler, filler, if_pos hp', if_neg (hq' ▸ h32)] at hf
    exact absurd hf.symm (never hq6)
  · rw [filler, filler, if_pos hq', if_neg (hp' ▸ h32)] at hf
    exact absurd hf (never hp6)
  · rw [filler, filler, if_neg (hp' ▸ h32), if_neg (hq' ▸ h32)] at hf
    rw [digits_of_three hp', digits_of_three hq', hm, hd, he, hf]

theorem toList_of_parse (h : parse text = .ok p) : text.toList = p.digits.map numeral := by
  rw [(parse_eq_ok h).2, String.toList_ofList]

theorem text_eq_of_encode_eq {text' : String} (hp : parse text = .ok p) (hq : parse text' = .ok q)
    (h : p.encode = q.encode) : text = text' := by
  obtain ⟨hw, ht⟩ := parse_eq_ok hp
  obtain ⟨hw', ht'⟩ := parse_eq_ok hq
  rw [ht, ht', digits_eq_of_encode_eq hw hw' h]

theorem eq_of_u24_eq {text' : String} (hp : parse text = .ok p) (hq : parse text' = .ok q)
    (h : p.u24 = q.u24) : p = q := by
  have ht := text_eq_of_encode_eq hp hq (Octets.u24_inj.1 h)
  rw [← ht, hp] at hq
  exact Except.ok.inj hq

/-- A text is read just when it is five or six digits, counted in characters or in bytes. What is
read is well formed and printed as the text with a dash, and no other text is packed alike. -/
theorem digits_exact (s : String) :
    ((∃ p, parse s = .ok p) ↔ (s.toList.length = 5 ∨ s.toList.length = 6) ∧
      ∀ c ∈ s.toList, c.isDigit = true) ∧
    ((∃ p, parse s = .ok p) ↔ (s.utf8ByteSize = 5 ∨ s.utf8ByteSize = 6) ∧
      ∀ b ∈ s.toUTF8.toList, 48 ≤ b ∧ b ≤ 57) ∧
    ((¬ ∃ p, parse s = .ok p) → parse s = .error (.plmn s)) ∧
    ∀ p, parse s = .ok p →
      ofFields? p.mcc p.mnc p.mncLength = some p ∧
      p.text = String.ofList (s.toList.take 3 ++ '-' :: s.toList.drop 3) ∧
      ∀ s' p', parse s' = .ok p' →
        (p.encode = p'.encode ↔ p.u24 = p'.u24) ∧ (p.encode = p'.encode → s = s') := by
  refine ⟨parse_isOk_iff, ?_, fun hn => ?_, fun p hp => ⟨?_, ?_, fun s' p' hp' =>
    ⟨Octets.u24_inj.symm, text_eq_of_encode_eq hp hp'⟩⟩⟩
  · rw [parse_isOk_iff, forall_mem_utf8]
    refine and_congr_left fun hd => ?_
    rw [utf8ByteSize_of_digits hd]
  · cases h : parse s with
    | ok p => exact absurd ⟨p, h⟩ hn
    | error e =>
        rw [parse] at h
        split at h
        · cases h
        · cases h
          rfl
  · exact if_pos (parse_eq_ok hp).1
  · rw [text_eq (parse_eq_ok hp).1, toList_of_parse hp]

/-- Two digits of network code and the same with a zero behind them are packed differently. -/
theorem short_code_apart :
    let p : Plmn := ⟨⟨2, 0, 8⟩, ⟨9, 3, 0⟩, 2⟩
    let q : Plmn := ⟨⟨2, 0, 8⟩, ⟨9, 3, 0⟩, 3⟩
    parse "20893" = .ok p ∧ parse "208930" = .ok q ∧ p.text = "208-93" ∧
      p.encode ≠ q.encode ∧ p.u24 ≠ q.u24 ∧ parse "2089٣" = .error (.plmn "2089٣") := by
  intro p q
  have hp : parse "20893" = .ok p := by decide
  have hq : parse "208930" = .ok q := by decide
  obtain ⟨-, -, -, h⟩ := digits_exact "20893"
  obtain ⟨-, ht, hs⟩ := h p hp
  obtain ⟨hu, he⟩ := hs "208930" q hq
  have hne : p.encode ≠ q.encode := fun h => absurd (he h) (by decide)
  refine ⟨hp, hq, ht, hne, fun h => hne (hu.2 h), (digits_exact "2089٣").2.2.1 ?_⟩
  rw [(digits_exact "2089٣").1]
  rintro ⟨-, hd⟩
  exact absurd (hd '٣' (by decide)) (by decide)

end Plmn

end E2Node
