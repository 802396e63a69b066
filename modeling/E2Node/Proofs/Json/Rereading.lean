import E2Node.Json.Reader
import E2Node.Proofs.Number.Numeral
import Mathlib.Data.List.TakeDrop

namespace E2Node.Json

open Numeral

theorem readDigits_append {ds rest : List Char} (hd : IsDigits ds)
    (hr : ∀ c ∈ rest.head?, c.isDigit = false) : readDigits (ds ++ rest) = some (ds, rest) := by
  obtain ⟨hne, hd⟩ := hd
  have ht : rest.takeWhile Char.isDigit = [] ∧ rest.dropWhile Char.isDigit = rest := by
    cases rest with
    | nil => exact ⟨rfl, rfl⟩
    | cons c cs => simp [hr c rfl]
  rw [readDigits, List.span_eq_takeWhile_dropWhile, List.takeWhile_append_of_pos hd,
    List.dropWhile_append_of_pos hd, ht.1, ht.2, List.append_nil]
  split
  · rename_i h
    exact absurd (congrArg Prod.fst h) hne
  · rfl

theorem readWhole_append {n : Numeral} {rest : List Char} (hn : n.WellFormed)
    (hr : ∀ c ∈ rest.head?, c.isDigit = false) :
    readWhole (n.whole ++ rest) = some (n.whole, rest) := by
  rw [readWhole, readDigits_append hn.whole hr]
  split
  · rename_i h
    obtain ⟨h, -⟩ := Prod.mk.inj (Option.some.inj h)
    have := hn.leading (by rw [h]; rfl)
    rw [h] at this
    exact nomatch this
  · rfl

theorem readFraction_append {ds rest : List Char} (hd : ∀ c ∈ ds, c.isDigit = true)
    (hr : ∀ c ∈ rest.head?, c.isDigit = false ∧ c ≠ '.') :
    readFraction (renderFraction ds ++ rest) = some (ds, rest) := by
  cases ds with
  | nil =>
      rw [renderFraction, List.nil_append]
      cases rest with
      | nil => rfl
      | cons c cs =>
          rw [readFraction]
          intro s h
          exact (hr c rfl).2 (List.cons.inj h).1
  | cons d ds => exact readDigits_append ⟨nofun, hd⟩ fun c hc => (hr c hc).1

theorem ne_signs_of_isDigit {c : Char} (h : c.isDigit = true) : c ≠ '-' ∧ c ≠ '+' := by
  constructor <;> rintro rfl <;> exact nomatch h

theorem readExponent_append {e : Option (Bool × List Char)} {rest : List Char}
    (he : ∀ p, e = some p → IsDigits p.2)
    (hr : ∀ c ∈ rest.head?, c.isDigit = false ∧ c ≠ 'e' ∧ c ≠ 'E') :
    readExponent (renderExponent e ++ rest) = some (e, rest) := by
  have hdigit : ∀ c ∈ rest.head?, c.isDigit = false := fun c hc => (hr c hc).1
  match e, he with
  | none, _ =>
      cases rest with
      | nil => rfl
      | cons c cs =>
          obtain ⟨-, h⟩ := hr c rfl
          rw [renderExponent, List.nil_append, readExponent.eq_def]
          exact if_neg (not_or.2 h)
  | some (true, ds), he =>
      have hd := readDigits_append (he _ rfl) hdigit
      simp [renderExponent, renderSign, readExponent, hd]
  | some (false, ds), he =>
      have hd := readDigits_append (he _ rfl) hdigit
      obtain ⟨d, ds, rfl⟩ := List.exists_cons_of_ne_nil (he _ rfl).1
      have h : d ≠ '-' ∧ d ≠ '+' := ne_signs_of_isDigit ((he _ rfl).2 d (.head _))
      rw [List.cons_append] at hd
      simp [renderExponent, renderSign, readExponent, h, hd]

def endsNumber (c : Char) : Bool := c = ',' || c = ']' || c = '\x7d'

theorem ne_of_endsNumber {c : Char} (h : endsNumber c = true) :
    c.isDigit = false ∧ c ≠ '.' ∧ c ≠ 'e' ∧ c ≠ 'E' := by
  simp only [endsNumber, Bool.or_eq_true, decide_eq_true_iff] at h
  obtain (rfl | rfl) | rfl := h <;> decide

theorem not_digit_of_head_fraction {ds rest : List Char}
    (hr : ∀ c ∈ rest.head?, c.isDigit = false) :
    ∀ c ∈ (renderFraction ds ++ rest).head?, c.isDigit = false := by
  intro c hc
  cases ds with
  | nil => exact hr c hc
  | cons d ds =>
      cases hc
      rfl

theorem not_digit_of_head_exponent {e : Option (Bool × List Char)} {rest : List Char}
    (hr : ∀ c ∈ rest.head?, c.isDigit = false ∧ c ≠ '.') :
    ∀ c ∈ (renderExponent e ++ rest).head?, c.isDigit = false ∧ c ≠ '.' := by
  intro c hc
  cases e with
  | none => exact hr c hc
  | some e =>
      cases hc
      decide

theorem readUnsigned_append {n : Numeral} {rest : List Char} (hn : n.WellFormed)
    (hr : ∀ c ∈ rest.head?, endsNumber c = true) :
    readUnsigned n.negative
      (n.whole ++ (renderFraction n.fraction ++ (renderExponent n.exponent ++ rest))) =
        some (n, rest) := by
  have hrest := fun c hc => ne_of_endsNumber (hr c hc)
  have hexponent : ∀ c ∈ (renderExponent n.exponent ++ rest).head?, c.isDigit = false ∧ c ≠ '.' :=
    not_digit_of_head_exponent fun c hc => ⟨(hrest c hc).1, (hrest c hc).2.1⟩
  have hfraction : ∀ c ∈ (renderFraction n.fraction ++ (renderExponent n.exponent ++ rest)).head?,
      c.isDigit = false := not_digit_of_head_fraction fun c hc => (hexponent c hc).1
  rw [readUnsigned, readWhole_append hn hfraction, Option.bind_eq_bind, Option.bind_some]
  dsimp only
  rw [readFraction_append hn.fraction hexponent, Option.bind_eq_bind, Option.bind_some]
  dsimp only
  rw [readExponent_append hn.exponent fun c hc => ⟨(hrest c hc).1, (hrest c hc).2.2⟩]
  rfl

theorem readNumeral_append {n : Numeral} {rest : List Char} (hn : n.WellFormed)
    (hr : ∀ c ∈ rest.head?, endsNumber c = true) :
    readNumeral (n.render ++ rest) = some (n, rest) := by
  have h := readUnsigned_append hn hr
  rw [render, List.append_assoc, List.append_assoc, List.append_assoc]
  cases hneg : n.negative with
  | true =>
      rw [hneg] at h
      exact h
  | false =>
      rw [hneg] at h
      obtain ⟨d, ds, hd⟩ := List.exists_cons_of_ne_nil hn.whole.1
      have hd' := (ne_signs_of_isDigit (hn.whole.2 d (hd ▸ .head _))).1
      rw [hd, List.cons_append] at h ⊢
      rw [renderSign, if_neg nofun, List.nil_append, readNumeral]
      · exact h
      · rintro s ⟨⟩
        exact hd' rfl

theorem hexValue?_digitChar : ∀ d, d < 16 → hexValue? (Nat.digitChar d) = some d := by
  decide

def Stands (p : Piece) (c : Char) : Prop := p = .char c ∨ p = .unit c.toNat ∧ c.toNat < 32

theorem joinPieces_cons {p : Piece} {c : Char} (h : Stands p c) (ps : List Piece) :
    joinPieces (p :: ps) = (joinPieces ps).map (c :: ·) := by
  obtain rfl | ⟨rfl, hc⟩ := h
  · rfl
  · have hh : isHigh c.toNat = false := by simp [isHigh]; omega
    have hl : isLow c.toNat = false := by simp [isLow]; omega
    match ps with
    | [] => simp [joinPieces, hh, hl]
    | .char d :: ps => simp [joinPieces, hh, hl]
    | .unit l :: ps => simp [joinPieces, hh, hl]

theorem readPieces_named {e c : Char} (he : escaped? e = some c) (rest : List Char) :
    readPieces ('\\' :: e :: rest) = (readPieces rest).map fun r => (.char c :: r.1, r.2) := by
  have hu : e ≠ 'u' := by
    rintro rfl
    exact nomatch he
  rw [readPieces, he]
  exact fun _ _ _ _ _ h => absurd h hu

theorem readPieces_control {c : Char} (hc : c.toNat < 32) (rest : List Char) :
    readPieces ('\\' :: 'u' :: '0' :: '0' :: Nat.digitChar (c.toNat / 16) ::
      Nat.digitChar (c.toNat % 16) :: rest) =
        (readPieces rest).map fun r => (.unit c.toNat :: r.1, r.2) := by
  have hzero : hexValue? '0' = some 0 := rfl
  have hn : ((0 * 16 + 0) * 16 + c.toNat / 16) * 16 + c.toNat % 16 = c.toNat := by omega
  rw [readPieces, hzero, hexValue?_digitChar _ (by omega), hexValue?_digitChar _ (by omega)]
  dsimp only
  rw [hn]

theorem readPieces_plain {c : Char} (hq : c ≠ '"') (hb : c ≠ '\\') (hc : ¬ c.toNat < 32)
    (rest : List Char) :
    readPieces (c :: rest) = (readPieces rest).map fun r => (.char c :: r.1, r.2) := by
  rw [readPieces, if_neg (not_or.2 ⟨hb, hc⟩)]
  · exact hq
  · exact fun _ _ _ _ _ h => absurd h hb
  · exact fun _ _ h => absurd h hb

theorem readPieces_escape (c : Char) (rest : List Char) :
    ∃ p, Stands p c ∧
      readPieces (escape c ++ rest) = (readPieces rest).map fun r => (p :: r.1, r.2) := by
  unfold escape
  iterate 7
    split
    · subst c
      exact ⟨_, .inl rfl, readPieces_named rfl rest⟩
  split
  · exact ⟨_, .inr ⟨rfl, ‹_›⟩, readPieces_control ‹_› rest⟩
  · exact ⟨_, .inl rfl, readPieces_plain ‹_› ‹_› ‹_› rest⟩

theorem readPieces_append (s rest : List Char) :
    ∃ ps, readPieces (s.flatMap escape ++ quote :: rest) = some (ps, rest) ∧
      joinPieces ps = some s := by
  induction s with
  | nil => exact ⟨[], rfl, rfl⟩
  | cons c s ih =>
      obtain ⟨ps, hps, hs⟩ := ih
      obtain ⟨p, hp, hr⟩ := readPieces_escape c (s.flatMap escape ++ quote :: rest)
      refine ⟨p :: ps, ?_, ?_⟩
      · rw [List.flatMap_cons, List.append_assoc, hr, hps]
        rfl
      · rw [joinPieces_cons hp, hs]
        rfl

theorem readText_append (s rest : List Char) :
    readText (s.flatMap escape ++ quote :: rest) = some (some s, rest) := by
  obtain ⟨ps, hps, hs⟩ := readPieces_append s rest
  rw [readText, hps, Option.map_some, hs]

/-- Numbers have the form of a number, and no text is missing. -/
inductive Tree.Writable : Tree → Prop
  | null : Writable .null
  | flag (b : Bool) : Writable (.flag b)
  | number {n : Numeral} (h : n.WellFormed) : Writable (.number n)
  | text (s : List Char) : Writable (.text (some s))
  | list {ts : List Tree} (h : ∀ t ∈ ts, Writable t) : Writable (.list ts)
  | record {es : List (Option (List Char) × Tree)} (hk : ∀ e ∈ es, e.1.isSome = true)
      (h : ∀ e ∈ es, Writable e.2) : Writable (.record es)

/-- The tree is read where its text stands, whatever follows, if it may go that deep. -/
def Tree.Returns (t : Tree) : Prop :=
  ∀ n rest, t.render.length < n → (∀ c ∈ rest.head?, endsNumber c = true) →
    readValue n (t.render ++ rest) = some (t, rest)

theorem skipBlanks_cons {c : Char} (h : isBlank c = false) (s : List Char) :
    skipBlanks (c :: s) = c :: s := by
  simp [skipBlanks, h]

theorem head_render_numeral {n : Numeral} (hn : n.WellFormed) :
    ∃ c s, n.render = c :: s ∧ (c = '-' ∨ c.isDigit = true) := by
  obtain ⟨d, ds, hd⟩ := List.exists_cons_of_ne_nil hn.whole.1
  cases hneg : n.negative with
  | true => exact ⟨'-', _, by rw [render, hneg]; rfl, .inl rfl⟩
  | false => exact ⟨d, _, by rw [render, hneg, hd]; rfl, .inr (hn.whole.2 d (hd ▸ .head _))⟩

theorem isBlank_of_numeral {c : Char} (h : c = '-' ∨ c.isDigit = true) : isBlank c = false := by
  rw [Bool.eq_false_iff]
  intro hb
  simp only [isBlank, Bool.or_eq_true, decide_eq_true_iff] at hb
  obtain ((rfl | rfl) | rfl) | rfl := hb <;> exact absurd h (by decide)

theorem readValue_numeral {c : Char} (h : c = '-' ∨ c.isDigit = true) (n : Nat) (s : List Char) :
    readValue (n + 1) (c :: s) = (readNumeral (c :: s)).map fun r => (.number r.1, r.2) := by
  rw [readValue.eq_def]
  dsimp only
  rw [skipBlanks_cons (isBlank_of_numeral h)]
  split
  case h_1 hs => exact nomatch hs
  case h_8 => rfl
  all_goals
    rename_i hs
    cases hs
    exact absurd h (by decide)

theorem head_render {t : Tree} (h : t.Writable) :
    ∃ c s, t.render = c :: s ∧ isBlank c = false ∧ c ≠ ']' := by
  cases h with
  | null => exact ⟨_, _, rfl, by decide⟩
  | flag b => cases b <;> exact ⟨_, _, rfl, by decide⟩
  | number h =>
      obtain ⟨c, s, hs, hc⟩ := head_render_numeral h
      refine ⟨c, s, hs, isBlank_of_numeral hc, ?_⟩
      rintro rfl
      exact absurd hc (by decide)
  | text s => exact ⟨_, _, rfl, by decide⟩
  | list h => exact ⟨_, _, rfl, by decide⟩
  | record hk h => exact ⟨_, _, rfl, by decide⟩

theorem readItems_last {n : Nat} {s rest : List Char} {t : Tree}
    (h : readValue n s = some (t, ']' :: rest)) : readItems (n + 1) s = some ([t], rest) := by
  rw [readItems, h]
  rfl

theorem readItems_comma {n : Nat} {s rest : List Char} {t : Tree}
    (h : readValue n s = some (t, ',' :: rest)) :
    readItems (n + 1) s = (readItems n rest).map fun r => (t :: r.1, r.2) := by
  rw [readItems, h]
  rfl

theorem readEntries_last {n : Nat} {s s' rest : List Char} {k : Option (List Char)} {t : Tree}
    (hk : readText s = some (k, ':' :: s')) (ht : readValue n s' = some (t, '\x7d' :: rest)) :
    readEntries (n + 1) ('"' :: s) = some ([(k, t)], rest) := by
  simp [readEntries, skipBlanks, isBlank, hk, ht]

theorem readEntries_comma {n : Nat} {s s' rest : List Char} {k : Option (List Char)} {t : Tree}
    (hk : readText s = some (k, ':' :: s')) (ht : readValue n s' = some (t, ',' :: rest)) :
    readEntries (n + 1) ('"' :: s) = (readEntries n rest).map fun r => ((k, t) :: r.1, r.2) := by
  simp [readEntries, skipBlanks, isBlank, hk, ht]

theorem readItems_append {ts : List Tree} (hne : ts ≠ []) (h : ∀ t ∈ ts, t.Returns) {n : Nat}
    {rest : List Char} (hn : (renderItems ts).length + 2 ≤ n) :
    readItems n (renderItems ts ++ ']' :: rest) = some (ts, rest) := by
  induction ts generalizing n with
  | nil => exact absurd rfl hne
  | cons t ts ih =>
      obtain _ | n := n
      · exact nomatch hn
      obtain ⟨ht, hts⟩ := List.forall_mem_cons.1 h
      cases ts with
      | nil =>
          rw [renderItems] at hn ⊢
          exact readItems_last (ht n _ (by omega) (by simp [endsNumber]))
      | cons u ts =>
          rw [renderItems, List.length_append, List.length_cons] at hn
          rw [renderItems, List.append_assoc, List.cons_append,
            readItems_comma (ht n _ (by omega) (by simp [endsNumber])), ih nofun hts (by omega)]
          rfl

theorem readEntries_append {es : List (Option (List Char) × Tree)} (hne : es ≠ [])
    (hk : ∀ e ∈ es, e.1.isSome = true) (h : ∀ e ∈ es, e.2.Returns) {n : Nat}
    {rest : List Char} (hn : (renderEntries es).length + 2 ≤ n) :
    readEntries n (renderEntries es ++ '\x7d' :: rest) = some (es, rest) := by
  induction es generalizing n with
  | nil => exact absurd rfl hne
  | cons e es ih =>
      obtain _ | n := n
      · exact nomatch hn
      obtain ⟨k, t⟩ := e
      obtain ⟨hk', hks⟩ := List.forall_mem_cons.1 hk
      obtain ⟨k, rfl⟩ := Option.isSome_iff_exists.1 hk'
      obtain ⟨(ht : t.Returns), hts⟩ := List.forall_mem_cons.1 h
      have hkey (s : List Char) : renderText k ++ ':' :: s =
          '"' :: (k.flatMap escape ++ quote :: ':' :: s) := by
        simp [renderText, quote]
      cases es with
      | nil =>
          rw [renderEntries, List.length_append, List.length_cons] at hn
          rw [renderEntries, Option.getD_some, List.append_assoc, List.cons_append, hkey]
          exact readEntries_last (readText_append _ _) (ht n _ (by omega) (by simp [endsNumber]))
      | cons e es =>
          rw [renderEntries, List.length_append, List.length_append, List.length_cons,
            List.length_cons] at hn
          rw [renderEntries, Option.getD_some, List.append_assoc, List.append_assoc,
            List.cons_append, hkey, List.cons_append, readEntries_comma (readText_append _ _)
              (ht n _ (by omega) (by simp [endsNumber])), ih nofun hks hts (by omega)]
          rfl

theorem returns_text (s : List Char) : (Tree.text (some s)).Returns := by
  rintro (_ | n) rest hn hr
  · exact nomatch hn
  have hs : (Tree.text (some s)).render ++ rest = '"' :: (s.flatMap escape ++ quote :: rest) := by
    simp [Tree.render, renderText, quote]
  rw [hs, readValue, skipBlanks_cons (by decide)]
  simp [readText_append]

theorem returns_number {m : Numeral} (h : m.WellFormed) : (Tree.number m).Returns := by
  rintro (_ | n) rest hn hr
  · exact nomatch hn
  obtain ⟨c, s, hs, hc⟩ := head_render_numeral h
  have hread := readNumeral_append h hr
  rw [Tree.render, hs, List.cons_append, readValue_numeral hc, ← List.cons_append, ← hs, hread]
  rfl

theorem readValue_list {c : Char} (hb : isBlank c = false) (hc : c ≠ ']') (n : Nat)
    (s : List Char) : readValue (n + 1) ('[' :: c :: s) =
      (readItems n (c :: s)).map fun r => (.list r.1, r.2) := by
  simp [readValue, skipBlanks_cons hb, skipBlanks_cons (show isBlank '[' = false by decide), hc]

theorem readValue_record (n : Nat) (s : List Char) : readValue (n + 1) ('\x7b' :: '"' :: s) =
    (readEntries n ('"' :: s)).map fun r => (.record r.1, r.2) := by
  simp [readValue, skipBlanks, isBlank]

theorem head_renderItems {t : Tree} (h : t.Writable) (ts : List Tree) :
    ∃ c s, renderItems (t :: ts) = c :: s ∧ isBlank c = false ∧ c ≠ ']' := by
  obtain ⟨c, s, hs, hc⟩ := head_render h
  cases ts with
  | nil => exact ⟨c, s, by rw [renderItems, hs], hc⟩
  | cons u ts => exact ⟨c, _, by rw [renderItems, hs]; rfl, hc⟩

theorem head_renderEntries (e : Option (List Char) × Tree)
    (es : List (Option (List Char) × Tree)) : ∃ s, renderEntries (e :: es) = '"' :: s := by
  cases es with
  | nil => exact ⟨_, rfl⟩
  | cons f es => exact ⟨_, rfl⟩

theorem returns_list {ts : List Tree} (h : ∀ t ∈ ts, t.Writable) (hr : ∀ t ∈ ts, t.Returns) :
    (Tree.list ts).Returns := by
  rintro (_ | n) rest hn -
  · exact nomatch hn
  obtain _ | ⟨t, ts⟩ := ts
  · rfl
  rw [Tree.render, List.length_append, List.length_cons, List.length_singleton] at hn
  have hread : readItems n (renderItems (t :: ts) ++ ']' :: rest) = some (t :: ts, rest) :=
    readItems_append (List.cons_ne_nil t ts) hr (by omega)
  obtain ⟨c, s, hs, hb, hc⟩ := head_renderItems (h t (.head _)) ts
  have htext : (Tree.list (t :: ts)).render ++ rest = '[' :: c :: (s ++ ']' :: rest) := by
    simp [Tree.render, hs]
  rw [hs, List.cons_append] at hread
  rw [htext, readValue_list hb hc, hread]
  rfl

theorem returns_record {es : List (Option (List Char) × Tree)}
    (hk : ∀ e ∈ es, e.1.isSome = true) (hr : ∀ e ∈ es, e.2.Returns) :
    (Tree.record es).Returns := by
  rintro (_ | n) rest hn -
  · exact nomatch hn
  obtain _ | ⟨e, es⟩ := es
  · rfl
  rw [Tree.render, List.length_append, List.length_cons, List.length_singleton] at hn
  have hread : readEntries n (renderEntries (e :: es) ++ '\x7d' :: rest) = some (e :: es, rest) :=
    readEntries_append (List.cons_ne_nil e es) hk hr (by omega)
  obtain ⟨s, hs⟩ := head_renderEntries e es
  have htext : (Tree.record (e :: es)).render ++ rest =
      '\x7b' :: '"' :: (s ++ '\x7d' :: rest) := by
    simp [Tree.render, hs]
  rw [hs, List.cons_append] at hread
  rw [htext, readValue_record, hread]
  rfl

theorem Tree.Writable.returns {t : Tree} (h : t.Writable) : t.Returns := by
  induction h with
  | null =>
      rintro (_ | n) rest hn hr
      · exact nomatch hn
      · rfl
  | flag b =>
      rintro (_ | n) rest hn hr
      · exact nomatch hn
      · cases b <;> rfl
  | number h => exact returns_number h
  | text s => exact returns_text s
  | list h ih => exact returns_list h ih
  | record hk h ih => exact returns_record hk ih

/-- A text that is written is read as the tree it was written from. -/
theorem parse_render {t : Tree} (h : t.Writable) : parse t.render = some t := by
  have hr := h.returns (t.render.length + 1) [] (Nat.lt_succ_self _) nofun
  rw [List.append_nil] at hr
  rw [parse, hr]
  rfl

end E2Node.Json
