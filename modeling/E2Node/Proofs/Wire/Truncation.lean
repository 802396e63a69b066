import E2Node.Proofs.Wire.Exact

namespace E2Node.Wire

variable {α β : Type}

abbrev Reader (α : Type) := List UInt8 → Except Fault (α × List UInt8)

/-- Bytes behind those that were enough are left over. -/
def Steady (read : Reader α) : Prop := ∀ front back, read front ≠ .error .ended →
  read (front ++ back) = (read front).map fun r => (r.1, r.2 ++ back)

theorem steady_ok (a : α) : Steady fun rest => .ok (a, rest) := fun _ _ _ => rfl

theorem steady_error (e : Fault) : Steady fun _ => (.error e : Except Fault (α × List UInt8)) :=
  fun _ _ _ => rfl

theorem steady_take (n : Nat) : Steady (take n) := by
  intro front back h
  by_cases hn : n ≤ front.length
  · have hn' : n ≤ (front ++ back).length := by
      rw [List.length_append]
      omega
    simp only [take, hn, hn', if_true, Except.map, List.take_append_of_le_length hn,
      List.drop_append_of_le_length hn]
  · simp [take, hn] at h

theorem steady_bind {whole : Reader β} {read : Reader α} (next : α → Reader β)
    (hw : ∀ bytes, whole bytes = (read bytes).bind fun r => next r.1 r.2)
    (h : Steady read) (hs : ∀ a, Steady (next a)) : Steady whole := by
  intro front back hn
  rw [hw] at hn ⊢
  rw [hw]
  cases hr : read front with
  | error e =>
      have he : e ≠ .ended := by
        rintro rfl
        exact hn (by rw [hr]; rfl)
      rw [h front back (by simpa [hr] using he), hr]
      rfl
  | ok r =>
      rw [hr] at hn
      rw [h front back (by simp [hr]), hr]
      exact hs r.1 r.2 back hn

theorem steady_map {read : Reader α} (h : Steady read) (f : α → β) :
    Steady fun bytes => (read bytes).map fun (a, rest) => (f a, rest) :=
  steady_bind (fun a rest => .ok (f a, rest)) (fun bytes => by cases read bytes <;> rfl) h
    fun a => steady_ok (f a)

theorem steady_ite {p : Prop} [Decidable p] {read read' : Reader α} (h : Steady read)
    (h' : Steady read') : Steady fun bytes => if p then read bytes else read' bytes := by
  by_cases hp : p
  · simpa only [hp, if_true] using h
  · simpa only [hp, if_false] using h'

theorem steady_find (o : Option α) {read : α → Reader β} (h : ∀ a, Steady (read a)) (e : Fault) :
    Steady fun bytes => o.elim (.error e) fun a => read a bytes := by
  cases o with
  | none => exact steady_error e
  | some a => exact h a

namespace Codec

variable {a : Codec α} {b c : Codec β}

theorem steady_word (k : Nat) : Steady (word k).decode := steady_map (steady_take k) leValue

theorem steady_via (h : Steady c.decode) (put : α → β) (get : β → α) :
    Steady (c.via put get).decode := steady_map h get

theorem steady_of (h : Steady c.decode) (p : Parts α β) : Steady (c.of p).decode :=
  steady_via h p.split p.join

theorem steady_u8 : Steady u8.decode := steady_via (steady_word 1) _ _

theorem steady_u16 : Steady u16.decode := steady_via (steady_word 2) _ _

theorem steady_u32 : Steady u32.decode := steady_via (steady_word 4) _ _

theorem steady_u64 : Steady u64.decode := steady_via (steady_word 8) _ _

theorem steady_pair (ha : Steady a.decode) (hb : Steady b.decode) : Steady (a.pair b).decode := by
  refine steady_bind (fun x rest => (b.decode rest).map fun (y, rest) => ((x, y), rest))
    (fun bytes => ?_) ha fun x => steady_map hb (Prod.mk x)
  simp only [pair]
  cases a.decode bytes with
  | error e => rfl
  | ok r =>
      simp only [Except.bind]
      cases b.decode r.2 <;> rfl

theorem steady_flag : Steady flag.decode := by
  refine steady_bind (fun x rest => if x = 0 then .ok (false, rest)
    else if x = 1 then .ok (true, rest) else .error (.flag x)) (fun bytes => ?_) steady_u8
      fun x => steady_ite (steady_ok false) (steady_ite (steady_ok true) (steady_error (.flag x)))
  simp only [flag]
  cases u8.decode bytes <;> rfl

theorem steady_option (h : Steady c.decode) : Steady (option c).decode := by
  refine steady_bind (fun x rest => if x = 0 then .ok (none, rest)
    else if x = 1 then (c.decode rest).map fun (y, rest) => (some y, rest)
    else .error (.presence x)) (fun bytes => ?_) steady_u8 fun x =>
      steady_ite (steady_ok none) (steady_ite (steady_map h some) (steady_error (.presence x)))
  simp only [option]
  cases u8.decode bytes <;> rfl

theorem steady_decodeMany (h : Steady c.decode) (n : Nat) : Steady (decodeMany c n) := by
  induction n with
  | zero => exact steady_ok []
  | succ n ih =>
      refine steady_bind (fun x rest => (decodeMany c n rest).map fun (xs, rest) => (x :: xs, rest))
        (fun bytes => ?_) h fun x => steady_map ih (List.cons x)
      rw [decodeMany]
      cases c.decode bytes with
      | error e => rfl
      | ok r =>
          simp only [Except.bind]
          cases decodeMany c n r.2 <;> rfl

theorem steady_list (h : Steady c.decode) : Steady (list c).decode := by
  refine steady_bind (decodeMany c) (fun bytes => ?_) (steady_word 8) (steady_decodeMany h)
  simp only [list]
  cases (word 8).decode bytes <;> rfl

theorem steady_octets : Steady octets.decode := by
  refine steady_bind take (fun bytes => ?_) (steady_word 8) steady_take
  simp only [octets]
  cases (word 8).decode bytes <;> rfl

theorem steady_text : Steady text.decode := by
  refine steady_bind (fun bs rest => (String.fromUTF8? ⟨bs.toArray⟩).elim (.error .notText)
    fun s => .ok (s, rest)) (fun bytes => ?_) steady_octets fun bs => steady_find _ steady_ok _
  simp only [text]
  cases octets.decode bytes with
  | error e => rfl
  | ok r =>
      simp only [Except.bind]
      cases String.fromUTF8? ⟨r.1.toArray⟩ <;> rfl

theorem steady_oneOf [BEq α] (cases : List α) : Steady (oneOf cases).decode := by
  refine steady_bind (fun i rest => cases[i]?.elim (.error (.alternative i cases.length))
    fun x => .ok (x, rest)) (fun bytes => ?_) (steady_word 4) fun i => steady_find _ steady_ok _
  simp only [oneOf]
  cases (word 4).decode bytes with
  | error e => rfl
  | ok r =>
      simp only [Except.bind]
      cases cases[r.1]? <;> rfl

theorem steady_alternatives [BEq α] {B : α → Type} {body : (k : α) → Codec (B k)}
    (kinds : List α) (h : ∀ k, Steady (body k).decode) :
    Steady (alternatives kinds body).decode := by
  refine steady_bind (fun i rest => kinds[i]?.elim (.error (.alternative i kinds.length))
    fun k => ((body k).decode rest).map fun r => (⟨k, r.1⟩, r.2)) (fun bytes => ?_)
      (steady_word 4) fun i => steady_find _ (fun k => steady_map (h k) (Sigma.mk k)) _
  simp only [alternatives]
  cases (word 4).decode bytes with
  | error e => rfl
  | ok r =>
      simp only [Except.bind]
      cases kinds[r.1]? <;> rfl

theorem Exact.read_cut {Fits : β → Prop} (hc : c.Exact Fits) (hs : Steady c.decode) {x : β}
    (hx : Fits x) {front back : List UInt8} (he : c.encode x = front ++ back) (hb : back ≠ []) :
    c.read front = .error .ended := by
  have hd : c.decode front = .error .ended := by
    by_contra hn
    have h := hs front back hn
    have hw := hc.decode_encode [] hx
    rw [List.append_nil, he, h] at hw
    obtain ⟨⟨y, rest⟩, -, hy⟩ := map_eq_ok hw
    exact hb (List.append_eq_nil_iff.1 (congrArg Prod.snd hy)).2
  rw [read, hd]
  rfl

theorem of_read (c : Codec β) (p : Parts α β) (bytes : List UInt8) :
    (c.of p).read bytes = (c.read bytes).map p.join := by
  simp only [read, of, via]
  cases c.decode bytes <;> rfl

theorem alternatives_read_beyond [BEq α] {B : α → Type} (kinds : List α)
    (body : (k : α) → Codec (B k)) {index : List UInt8} (hl : index.length = 4)
    (hi : kinds.length ≤ leValue index) (rest : List UInt8) :
    (alternatives kinds body).read (index ++ rest) =
      .error (.alternative (leValue index) kinds.length) := by
  have hw : (word 4).decode (index ++ rest) = .ok (leValue index, rest) := by
    simp only [word, ← hl, take_append, Except.map]
  simp only [read, alternatives, hw, List.getElem?_eq_none hi]
  rfl

end Codec

end E2Node.Wire
