import E2Node.Wire.Codec
import Mathlib.Algebra.Ring.Nat
import Mathlib.Data.List.Nodup

namespace E2Node.Wire

def Countable (n : Nat) : Prop := n < 2 ^ 64

theorem Countable.mono {m n : Nat} (h : Countable n) (hm : m ≤ n) : Countable m :=
  Nat.lt_of_le_of_lt hm h

/-- The values that fit are those with lengths that can be written; only they are read back. No
value is written as nothing, so a value fits unless its form is too long to be counted. -/
structure Codec.Exact {α : Type} (c : Codec α) (Fits : α → Prop) : Prop where
  encode_pos : ∀ a, 0 < (c.encode a).length
  fits_of_countable : ∀ {a}, Countable (c.encode a).length → Fits a
  decode_encode : ∀ {a} rest, Fits a → c.decode (c.encode a ++ rest) = .ok (a, rest)
  fits : ∀ {bytes a rest}, c.decode bytes = .ok (a, rest) → Fits a
  eq_encode : ∀ {bytes a rest}, c.decode bytes = .ok (a, rest) → bytes = c.encode a ++ rest

theorem map_eq_ok {ε α β : Type} {f : α → β} {x : Except ε α} {b : β} (h : x.map f = .ok b) :
    ∃ a, x = .ok a ∧ f a = b := by
  cases x with
  | error e => cases h
  | ok a => exact ⟨a, rfl, by cases h; rfl⟩

theorem take_append (front rest : List UInt8) :
    take front.length (front ++ rest) = .ok (front, rest) := by
  simp [take]

theorem eq_append_of_take {n : Nat} {bytes front rest : List UInt8}
    (h : take n bytes = .ok (front, rest)) : front.length = n ∧ bytes = front ++ rest := by
  rw [take] at h
  split at h
  · cases h
    exact ⟨List.length_take_of_le ‹_›, (List.take_append_drop n bytes).symm⟩
  · cases h

@[simp]
theorem length_leBytes (k n : Nat) : (leBytes k n).length = k := by
  induction k generalizing n with
  | zero => rfl
  | succ k ih => simp [leBytes, ih]

theorem leValue_leBytes (k n : Nat) (h : n < 256 ^ k) : leValue (leBytes k n) = n := by
  induction k generalizing n with
  | zero => simp only [Nat.pow_zero, Nat.lt_one_iff] at h; simp [leBytes, leValue, h]
  | succ k ih =>
      have hlt : n / 256 < 256 ^ k := by
        rw [Nat.div_lt_iff_lt_mul (by decide)]
        simpa [Nat.pow_succ] using h
      simp only [leBytes, leValue, ih _ hlt, UInt8.toNat_ofNat']
      exact Nat.mod_add_div n 256

theorem leBytes_leValue (bytes : List UInt8) : leBytes bytes.length (leValue bytes) = bytes := by
  induction bytes with
  | nil => rfl
  | cons b bytes ih =>
      have hb := b.toNat_lt
      have hdiv : (b.toNat + 256 * leValue bytes) / 256 = leValue bytes := by omega
      have hlow : UInt8.ofNat (b.toNat + 256 * leValue bytes) = b := by
        rw [← UInt8.toNat_inj, UInt8.toNat_ofNat']
        omega
      simp only [List.length_cons, leBytes, leValue, hdiv, hlow, ih]

theorem leValue_lt (bytes : List UInt8) : leValue bytes < 256 ^ bytes.length := by
  induction bytes with
  | nil => simp [leValue]
  | cons b bytes ih =>
      have hb := b.toNat_lt
      simp only [leValue, List.length_cons, Nat.pow_succ]
      omega

namespace Codec

theorem word_encode (k n : Nat) : (word k).encode n = leBytes k n := rfl

theorem word_decode_encode {k n : Nat} (h : n < 256 ^ k) (rest : List UInt8) :
    (word k).decode (leBytes k n ++ rest) = .ok (n, rest) := by
  have ht := take_append (leBytes k n) rest
  rw [length_leBytes] at ht
  simp only [word, ht, Except.map, leValue_leBytes k n h]

theorem word_eq_encode {k n : Nat} {bytes rest : List UInt8}
    (h : (word k).decode bytes = .ok (n, rest)) : n < 256 ^ k ∧ bytes = leBytes k n ++ rest := by
  obtain ⟨⟨front, rest'⟩, ht, he⟩ := map_eq_ok h
  obtain ⟨hl, rfl⟩ := eq_append_of_take ht
  cases he
  subst hl
  exact ⟨leValue_lt front, by rw [leBytes_leValue]⟩

variable {α β : Type} {Fits : α → Prop} {Fits' : β → Prop}

theorem Exact.congr {c : Codec α} (hc : c.Exact Fits) {Fits'' : α → Prop}
    (h : ∀ a, Fits a ↔ Fits'' a) : c.Exact Fits'' := by
  rwa [show Fits'' = Fits from funext fun a => propext (h a).symm]

theorem via_word_exact {k : Nat} (hk : 0 < k) {put : α → Nat} {get : Nat → α}
    (hlt : ∀ a, put a < 256 ^ k) (hget : ∀ a, get (put a) = a)
    (hput : ∀ n, n < 256 ^ k → put (get n) = n) : ((word k).via put get).Exact fun _ => True where
  encode_pos a := by simpa [via, word] using hk
  fits_of_countable _ := trivial
  decode_encode {a} rest _ := by
    simp only [via, word_encode, word_decode_encode (hlt a), Except.map, hget]
  fits _ := trivial
  eq_encode h := by
    obtain ⟨⟨n, rest⟩, hd, he⟩ := map_eq_ok h
    obtain ⟨hn, rfl⟩ := word_eq_encode hd
    cases he
    simp only [via, word_encode, hput n hn]

theorem u8_exact : u8.Exact fun _ => True :=
  via_word_exact (by decide) UInt8.toNat_lt (fun _ => UInt8.ofNat_toNat)
    fun _ h => UInt8.toNat_ofNat_of_lt' h

theorem u16_exact : u16.Exact fun _ => True :=
  via_word_exact (by decide) UInt16.toNat_lt (fun _ => UInt16.ofNat_toNat)
    fun _ h => UInt16.toNat_ofNat_of_lt' h

theorem u32_exact : u32.Exact fun _ => True :=
  via_word_exact (by decide) UInt32.toNat_lt (fun _ => UInt32.ofNat_toNat)
    fun _ h => UInt32.toNat_ofNat_of_lt' h

theorem u64_exact : u64.Exact fun _ => True :=
  via_word_exact (by decide) UInt64.toNat_lt (fun _ => UInt64.ofNat_toNat)
    fun _ h => UInt64.toNat_ofNat_of_lt' h

theorem of_exact {c : Codec β} (hc : c.Exact Fits') (p : Parts α β) :
    (c.of p).Exact fun a => Fits' (p.split a) where
  encode_pos _ := hc.encode_pos _
  fits_of_countable h := hc.fits_of_countable h
  decode_encode {a} rest h := by
    have hd := hc.decode_encode rest h
    simp only [of, via, hd, Except.map, p.join_split]
  fits h := by
    obtain ⟨⟨b, rest⟩, hd, he⟩ := map_eq_ok h
    cases he
    simpa only [p.split_join] using hc.fits hd
  eq_encode h := by
    obtain ⟨⟨b, rest⟩, hd, he⟩ := map_eq_ok h
    cases he
    simpa only [of, via, p.split_join] using hc.eq_encode hd

theorem pair_decode_eq_ok {a : Codec α} {b : Codec β} {bytes : List UInt8} {p : α × β}
    {rest : List UInt8} (h : (a.pair b).decode bytes = .ok (p, rest)) :
    ∃ middle, a.decode bytes = .ok (p.1, middle) ∧ b.decode middle = .ok (p.2, rest) := by
  simp only [pair] at h
  split at h
  · cases h
  · rename_i x middle hx
    split at h
    · cases h
    · rename_i y rest hy
      cases h
      exact ⟨middle, hx, hy⟩

theorem pair_encode_length (a : Codec α) (b : Codec β) (p : α × β) :
    ((a.pair b).encode p).length = (a.encode p.1).length + (b.encode p.2).length :=
  List.length_append

theorem pair_exact {a : Codec α} {b : Codec β} (ha : a.Exact Fits) (hb : b.Exact Fits') :
    (a.pair b).Exact fun p => Fits p.1 ∧ Fits' p.2 where
  encode_pos p := by
    rw [pair_encode_length]
    exact Nat.add_pos_left (ha.encode_pos p.1) _
  fits_of_countable h := by
    rw [pair_encode_length] at h
    exact ⟨ha.fits_of_countable (h.mono (Nat.le_add_right _ _)),
      hb.fits_of_countable (h.mono (Nat.le_add_left _ _))⟩
  decode_encode {p} rest h := by
    simp only [pair, List.append_assoc, ha.decode_encode _ h.1, hb.decode_encode rest h.2]
  fits h := by
    obtain ⟨middle, hx, hy⟩ := pair_decode_eq_ok h
    exact ⟨ha.fits hx, hb.fits hy⟩
  eq_encode h := by
    obtain ⟨middle, hx, hy⟩ := pair_decode_eq_ok h
    rw [ha.eq_encode hx, hb.eq_encode hy]
    simp [pair]

theorem flag_exact : flag.Exact fun _ => True where
  encode_pos b := u8_exact.encode_pos _
  fits_of_countable _ := trivial
  decode_encode {b} rest h := by
    have hd := u8_exact.decode_encode (a := if b then 1 else 0) rest h
    cases b <;> simp_all [flag]
  fits _ := trivial
  eq_encode h := by
    simp only [flag] at h
    split at h
    · cases h
    · rename_i b rest hb
      have he := u8_exact.eq_encode hb
      split at h
      · cases h; simp_all [flag]
      · split at h
        · cases h; simp_all [flag]
        · cases h

theorem option_decode_eq_ok {c : Codec α} {bytes : List UInt8} {o : Option α} {rest : List UInt8}
    (h : (option c).decode bytes = .ok (o, rest)) :
    (o = none ∧ bytes = u8.encode 0 ++ rest) ∨
      ∃ a middle, o = some a ∧ bytes = u8.encode 1 ++ middle ∧ c.decode middle = .ok (a, rest) := by
  simp only [option] at h
  split at h
  · cases h
  · rename_i b middle hb
    have he := u8_exact.eq_encode hb
    split at h
    · rename_i h0
      cases h
      exact .inl ⟨rfl, h0 ▸ he⟩
    · split at h
      · rename_i h1
        obtain ⟨⟨a, tail⟩, ha, hae⟩ := map_eq_ok h
        cases hae
        exact .inr ⟨a, middle, rfl, h1 ▸ he, ha⟩
      · cases h

theorem option_encode_some (c : Codec α) (a : α) :
    (option c).encode (some a) = u8.encode 1 ++ c.encode a := rfl

theorem option_exact {c : Codec α} (hc : c.Exact Fits) :
    (option c).Exact fun o => ∀ a ∈ o, Fits a where
  encode_pos o := by
    cases o with
    | none => exact u8_exact.encode_pos 0
    | some a =>
        rw [option_encode_some, List.length_append]
        exact Nat.add_pos_left (u8_exact.encode_pos 1) _
  fits_of_countable h := by
    rintro a rfl
    rw [option_encode_some, List.length_append] at h
    exact hc.fits_of_countable (h.mono (Nat.le_add_left _ _))
  decode_encode {o} rest h := by
    cases o with
    | none =>
        have hd := u8_exact.decode_encode (a := 0) rest trivial
        simp only [option, hd, if_true]
    | some a =>
        have hd := u8_exact.decode_encode (a := 1) (c.encode a ++ rest) trivial
        have ha := hc.decode_encode rest (h a rfl)
        simp [option, hd, ha, Except.map]
  fits h := by
    obtain ⟨rfl, -⟩ | ⟨a, middle, rfl, -, ha⟩ := option_decode_eq_ok h
    · simp
    · simpa using hc.fits ha
  eq_encode h := by
    obtain ⟨rfl, hb⟩ | ⟨a, middle, rfl, hb, ha⟩ := option_decode_eq_ok h
    · exact hb
    · rw [hb, hc.eq_encode ha]
      simp [option]

theorem decodeMany_encode {c : Codec α} (hc : c.Exact Fits) (as : List α) (rest : List UInt8)
    (h : ∀ a ∈ as, Fits a) :
    decodeMany c as.length (as.flatMap c.encode ++ rest) = .ok (as, rest) := by
  induction as with
  | nil => rfl
  | cons a as ih =>
      have ha := hc.decode_encode (as.flatMap c.encode ++ rest) (h a List.mem_cons_self)
      have has := ih fun b hb => h b (List.mem_cons_of_mem a hb)
      simp only [List.flatMap_cons, List.length_cons, List.append_assoc, decodeMany, ha, has]

theorem decodeMany_eq_encode {c : Codec α} (hc : c.Exact Fits) {n : Nat} {bytes : List UInt8}
    {as : List α} {rest : List UInt8} (h : decodeMany c n bytes = .ok (as, rest)) :
    as.length = n ∧ (∀ a ∈ as, Fits a) ∧ bytes = as.flatMap c.encode ++ rest := by
  induction n generalizing bytes as with
  | zero => cases h; exact ⟨rfl, by simp, rfl⟩
  | succ n ih =>
      simp only [decodeMany] at h
      split at h
      · cases h
      · rename_i a middle ha
        split at h
        · cases h
        · rename_i as' rest hr
          cases h
          obtain ⟨hl, hf, hm⟩ := ih hr
          refine ⟨by simp [hl], ?_, ?_⟩
          · simpa using ⟨hc.fits ha, hf⟩
          · rw [hc.eq_encode ha, hm, List.flatMap_cons, List.append_assoc]

theorem word_decode_length {n : Nat} (h : Countable n) (rest : List UInt8) :
    (word 8).decode ((word 8).encode n ++ rest) = .ok (n, rest) :=
  word_decode_encode (by unfold Countable at h; omega) rest

theorem word_eq_length {n : Nat} {bytes rest : List UInt8}
    (h : (word 8).decode bytes = .ok (n, rest)) :
    Countable n ∧ bytes = (word 8).encode n ++ rest := by
  obtain ⟨hn, hb⟩ := word_eq_encode h
  exact ⟨by unfold Countable; omega, hb⟩

theorem list_decode_eq_ok {c : Codec α} (hc : c.Exact Fits) {bytes : List UInt8} {as : List α}
    {rest : List UInt8} (h : (list c).decode bytes = .ok (as, rest)) :
    (Countable as.length ∧ ∀ a ∈ as, Fits a) ∧ bytes = (list c).encode as ++ rest := by
  simp only [list] at h
  split at h
  · cases h
  · rename_i n middle hn
    obtain ⟨hlt, hb⟩ := word_eq_length hn
    obtain ⟨rfl, hf, hm⟩ := decodeMany_eq_encode hc h
    exact ⟨⟨hlt, hf⟩, by rw [hb, hm]; simp [list]⟩

theorem list_encode_length (c : Codec α) (as : List α) :
    ((list c).encode as).length = 8 + (as.flatMap c.encode).length := by
  simp only [list, word_encode, List.length_append, length_leBytes]

theorem length_le_flatMap {c : Codec α} (hc : c.Exact Fits) (as : List α) :
    as.length ≤ (as.flatMap c.encode).length := by
  induction as with
  | nil => simp
  | cons a as ih =>
      have := hc.encode_pos a
      simp only [List.length_cons, List.flatMap_cons, List.length_append]
      omega

theorem encode_le_flatMap (c : Codec α) {as : List α} {a : α} (ha : a ∈ as) :
    (c.encode a).length ≤ (as.flatMap c.encode).length := by
  obtain ⟨front, back, rfl⟩ := List.append_of_mem ha
  simp only [List.flatMap_append, List.flatMap_cons, List.length_append]
  omega

theorem list_exact {c : Codec α} (hc : c.Exact Fits) :
    (list c).Exact fun as => Countable as.length ∧ ∀ a ∈ as, Fits a where
  encode_pos as := by
    rw [list_encode_length]
    exact Nat.add_pos_left (by decide) _
  fits_of_countable {as} h := by
    rw [list_encode_length] at h
    have hf := h.mono (Nat.le_add_left _ 8)
    exact ⟨hf.mono (length_le_flatMap hc as),
      fun a ha => hc.fits_of_countable (hf.mono (encode_le_flatMap c ha))⟩
  decode_encode {as} rest h := by
    simp only [list, List.append_assoc, word_decode_length h.1, decodeMany_encode hc as rest h.2]
  fits h := (list_decode_eq_ok hc h).1
  eq_encode h := (list_decode_eq_ok hc h).2

theorem octets_decode_eq_ok {bytes bs rest : List UInt8}
    (h : octets.decode bytes = .ok (bs, rest)) :
    Countable bs.length ∧ bytes = octets.encode bs ++ rest := by
  simp only [octets] at h
  split at h
  · cases h
  · rename_i n middle hn
    obtain ⟨hlt, hb⟩ := word_eq_length hn
    obtain ⟨rfl, hm⟩ := eq_append_of_take h
    exact ⟨hlt, by rw [hb, hm]; simp [octets]⟩

theorem octets_encode_length (bs : List UInt8) : (octets.encode bs).length = 8 + bs.length := by
  simp only [octets, word_encode, List.length_append, length_leBytes]

theorem octets_exact : octets.Exact fun bs => Countable bs.length where
  encode_pos bs := by
    rw [octets_encode_length]
    exact Nat.add_pos_left (by decide) _
  fits_of_countable {bs} h := by
    rw [octets_encode_length] at h
    exact h.mono (Nat.le_add_left _ 8)
  decode_encode rest h := by
    simp only [octets, List.append_assoc, word_decode_length h, take_append]
  fits h := (octets_decode_eq_ok h).1
  eq_encode h := (octets_decode_eq_ok h).2

theorem toList_loop (b : ByteArray) (i : Nat) (r : List UInt8) :
    ByteArray.toList.loop b i r = r.reverse ++ b.data.toList.drop i := by
  fun_induction ByteArray.toList.loop b i r with
  | case1 i r hi ih =>
      have hi' : i < b.data.toList.length := by simpa using hi
      have hget : b.get! i = b.data.toList[i] := by
        obtain ⟨a⟩ := b
        exact (getElem!_pos a i hi).trans (Array.getElem_toList hi).symm
      rw [ih, List.reverse_cons, List.append_assoc, List.drop_eq_getElem_cons hi', hget]
      rfl
  | case2 i r hi =>
      have hi' : b.data.toList.length ≤ i := by simpa using hi
      rw [List.drop_eq_nil_of_le hi', List.append_nil]

theorem ofList_toList (b : ByteArray) : (⟨b.toList.toArray⟩ : ByteArray) = b := by
  rw [ByteArray.toList, toList_loop]
  rfl

theorem toList_mk (bs : List UInt8) : (⟨bs.toArray⟩ : ByteArray).toList = bs := by
  rw [ByteArray.toList, toList_loop]
  rfl

theorem fromUTF8_toUTF8 (s : String) : String.fromUTF8? s.toUTF8 = some s := by
  simp only [String.fromUTF8?, String.toUTF8_eq_toByteArray, dif_pos s.isValidUTF8]
  rfl

theorem toUTF8_of_fromUTF8 {b : ByteArray} {s : String} (h : String.fromUTF8? b = some s) :
    s.toUTF8 = b := by
  rw [String.fromUTF8?] at h
  split at h
  · cases h; rfl
  · cases h

theorem length_toUTF8 (s : String) : s.toUTF8.toList.length = s.utf8ByteSize := by
  rw [ByteArray.toList, toList_loop]
  rfl

theorem text_decode_eq_ok {bytes : List UInt8} {s : String} {rest : List UInt8}
    (h : text.decode bytes = .ok (s, rest)) : octets.decode bytes = .ok (s.toUTF8.toList, rest) := by
  simp only [text] at h
  split at h
  · cases h
  · rename_i bs rest hb
    split at h
    · rename_i s hs
      cases h
      rw [hb, toUTF8_of_fromUTF8 hs, toList_mk]
    · cases h

theorem text_exact : text.Exact fun s => Countable s.utf8ByteSize where
  encode_pos s := octets_exact.encode_pos _
  fits_of_countable {s} h := by
    rw [← length_toUTF8]
    exact octets_exact.fits_of_countable h
  decode_encode {s} rest h := by
    have hd := octets_exact.decode_encode (a := s.toUTF8.toList) rest (by rwa [length_toUTF8])
    simp only [text, hd, ofList_toList, fromUTF8_toUTF8]
  fits h := by
    rw [← length_toUTF8]
    exact octets_exact.fits (text_decode_eq_ok h)
  eq_encode h := octets_exact.eq_encode (text_decode_eq_ok h)

section

variable [BEq α] [LawfulBEq α]

theorem getElem?_eq_some_iff_idxOf {cases : List α} (hall : ∀ a, a ∈ cases) (hd : cases.Nodup)
    {i : Nat} {a : α} : cases[i]? = some a ↔ cases.idxOf a = i := by
  constructor
  · intro h
    obtain ⟨hi, rfl⟩ := List.getElem?_eq_some_iff.1 h
    exact hd.idxOf_getElem i hi
  · rintro rfl
    exact List.getElem?_idxOf (hall a)

theorem idxOf_lt {cases : List α} (hall : ∀ a, a ∈ cases) (hl : cases.length ≤ 256 ^ 4) (a : α) :
    cases.idxOf a < 256 ^ 4 :=
  Nat.lt_of_lt_of_le (List.idxOf_lt_length_iff.2 (hall a)) hl

theorem oneOf_exact {cases : List α} (hall : ∀ a, a ∈ cases) (hd : cases.Nodup)
    (hl : cases.length ≤ 256 ^ 4) : (oneOf cases).Exact fun _ => True where
  encode_pos a := by simp [oneOf, word_encode]
  fits_of_countable _ := trivial
  decode_encode {a} rest _ := by
    simp only [oneOf, word_encode, word_decode_encode (idxOf_lt hall hl a),
      (getElem?_eq_some_iff_idxOf hall hd).2 rfl]
  fits _ := trivial
  eq_encode h := by
    simp only [oneOf] at h
    split at h
    · cases h
    · rename_i i rest hi
      split at h
      · rename_i a ha
        cases h
        rw [(word_eq_encode hi).2, ← (getElem?_eq_some_iff_idxOf hall hd).1 ha]
        simp [oneOf, word_encode]
      · cases h

theorem alternatives_decode_eq_ok {B : α → Type} {kinds : List α} {body : (k : α) → Codec (B k)}
    (hall : ∀ k, k ∈ kinds) (hd : kinds.Nodup) {bytes : List UInt8} {s : Sigma B}
    {rest : List UInt8} (h : (alternatives kinds body).decode bytes = .ok (s, rest)) :
    ∃ middle, bytes = (word 4).encode (kinds.idxOf s.1) ++ middle ∧
      (body s.1).decode middle = .ok (s.2, rest) := by
  simp only [alternatives] at h
  split at h
  · cases h
  · rename_i i middle hi
    split at h
    · rename_i k hk
      obtain ⟨⟨b, rest⟩, hr, he⟩ := map_eq_ok h
      cases he
      refine ⟨middle, ?_, hr⟩
      rw [(word_eq_encode hi).2, (getElem?_eq_some_iff_idxOf hall hd).1 hk, word_encode]
    · cases h

theorem alternatives_exact {B : α → Type} {kinds : List α} {body : (k : α) → Codec (B k)}
    (FitsBody : (k : α) → B k → Prop) (hall : ∀ k, k ∈ kinds) (hd : kinds.Nodup)
    (hl : kinds.length ≤ 256 ^ 4) (hb : ∀ k, (body k).Exact (FitsBody k)) :
    (alternatives kinds body).Exact fun s => FitsBody s.1 s.2 where
  encode_pos s := by
    rw [alternatives, List.length_append, word_encode, length_leBytes]
    exact Nat.add_pos_left (by decide) _
  fits_of_countable {s} h := by
    rw [alternatives, List.length_append] at h
    exact (hb s.1).fits_of_countable (h.mono (Nat.le_add_left _ _))
  decode_encode {s} rest h := by
    simp only [alternatives, word_encode, List.append_assoc,
      word_decode_encode (idxOf_lt hall hl s.1), (getElem?_eq_some_iff_idxOf hall hd).2 rfl,
      (hb s.1).decode_encode rest h, Except.map]
  fits h := by
    obtain ⟨middle, -, hr⟩ := alternatives_decode_eq_ok hall hd h
    exact (hb _).fits hr
  eq_encode h := by
    obtain ⟨middle, hm, hr⟩ := alternatives_decode_eq_ok hall hd h
    rw [hm, (hb _).eq_encode hr]
    simp [alternatives]

end

theorem Exact.eq_of_prefix {c : Codec α} (hc : c.Exact Fits) {a b : α} (ha : Fits a) (hb : Fits b)
    (h : c.encode a <+: c.encode b) : a = b := by
  obtain ⟨back, h⟩ := h
  have hd := hc.decode_encode [] hb
  rw [List.append_nil, ← h, hc.decode_encode back ha] at hd
  exact congrArg Prod.fst (Except.ok.inj hd)

theorem Exact.read_eq_ok_iff {c : Codec α} (hc : c.Exact Fits) {a : α} {bytes : List UInt8} :
    c.read bytes = .ok a ↔ Fits a ∧ ∃ rest, bytes = c.encode a ++ rest := by
  constructor
  · intro h
    obtain ⟨⟨a', rest⟩, hd, rfl⟩ := map_eq_ok h
    exact ⟨hc.fits hd, rest, hc.eq_encode hd⟩
  · rintro ⟨ha, rest, rfl⟩
    rw [read, hc.decode_encode rest ha]
    rfl

end Codec

end E2Node.Wire
