import E2Node.Ident.Cell
import E2Node.Proofs.Ident.Plmn

namespace E2Node

variable {plmn plmn' : Plmn} {enb enb' : EnbId} {cell cell' : CellId} {e e' : Ecgi}

theorem EnbId.ext_toNat (h : enb.val.toNat = enb'.val.toNat) : enb = enb' := by
  cases enb
  cases enb'
  exact congrArg _ (UInt32.toNat_inj.1 h)

theorem CellId.ext_toNat (h : cell.val.toNat = cell'.val.toNat) : cell = cell' := by
  cases cell
  cases cell'
  exact congrArg _ (UInt8.toNat_inj.1 h)

theorem Eci.ext_toNat {a b : Eci} (h : a.val.toNat = b.val.toNat) : a = b := by
  cases a
  cases b
  exact congrArg _ (UInt32.toNat_inj.1 h)

theorem GEnbId.ext_toNat {a b : GEnbId} (h : a.val.toNat = b.val.toNat) : a = b := by
  cases a
  cases b
  exact congrArg _ (UInt64.toNat_inj.1 h)

theorem EnbId.le_max_iff : enb.val ≤ EnbId.max ↔ enb.val.toNat < 2 ^ 20 := by
  rw [UInt32.le_iff_toNat_le, show EnbId.max.toNat = 2 ^ 20 - 1 by decide]
  omega

theorem toNat_eciRange : eciRange.toNat = 2 ^ 28 := by decide

theorem Plmn.toNat_u24_lt (p : Plmn) : p.u24.toNat < 2 ^ 24 := p.encode.toNat_u24_lt

theorem Eci.toNat_ofParts (enb : EnbId) (cell : CellId) :
    (ofParts enb cell).val.toNat = (enb.val.toNat * 256 + cell.val.toNat) % 2 ^ 32 := by
  simp only [ofParts, UInt32.toNat_add, UInt32.toNat_mul, UInt8.toNat_toUInt32, UInt32.reduceToNat]
  omega

namespace Ecgi

theorem toNat_ofParts (plmn : Plmn) (eci : Eci) :
    (ofParts plmn eci).val.toNat = plmn.u24.toNat * 2 ^ 28 + eci.val.toNat % 2 ^ 28 := by
  have h := plmn.toNat_u24_lt
  simp only [ofParts, UInt64.toNat_add, UInt64.toNat_mul, UInt64.toNat_mod,
    UInt32.toNat_toUInt64, toNat_eciRange]
  omega

theorem toNat_plmnU24 (e : Ecgi) : e.plmnU24.toNat = e.val.toNat / 2 ^ 28 % 2 ^ 32 := by
  simp only [plmnU24, UInt64.toNat_toUInt32, UInt64.toNat_div, toNat_eciRange]

theorem toNat_eci (e : Ecgi) : e.eci.val.toNat = e.val.toNat % 2 ^ 28 := by
  simp only [eci, UInt64.toNat_toUInt32, UInt64.toNat_mod, toNat_eciRange]
  omega

theorem toNat_enbId (e : Ecgi) : e.enbId.val.toNat = e.val.toNat % 2 ^ 28 / 256 := by
  simp only [enbId, UInt64.toNat_toUInt32, UInt64.toNat_mod, UInt64.toNat_div, toNat_eciRange,
    UInt64.reduceToNat]
  omega

theorem toNat_cellId (e : Ecgi) : e.cellId.val.toNat = e.val.toNat % 256 := by
  simp only [cellId, UInt64.toNat_toUInt8, UInt64.toNat_mod, UInt64.reduceToNat]
  omega

end Ecgi

namespace GEnbId

theorem toNat_ofParts (plmn : Plmn) (enb : EnbId) :
    (ofParts plmn enb).val.toNat = plmn.u24.toNat * 2 ^ 28 + enb.val.toNat * 256 % 2 ^ 28 := by
  have h := plmn.toNat_u24_lt
  have he := enb.val.toNat_lt
  simp only [ofParts, UInt64.toNat_add, UInt64.toNat_mul, UInt64.toNat_mod,
    UInt32.toNat_toUInt64, toNat_eciRange, UInt64.reduceToNat]
  omega

theorem toNat_ofEcgi (e : Ecgi) : (ofEcgi e).val.toNat = e.val.toNat / 256 * 256 := by
  have h := e.val.toNat_lt
  simp only [ofEcgi, UInt64.toNat_mul, UInt64.toNat_div, UInt64.reduceToNat]
  omega

theorem toNat_enbId (g : GEnbId) : g.enbId.val.toNat = g.val.toNat % 2 ^ 28 / 256 := by
  simp only [enbId, UInt64.toNat_toUInt32, UInt64.toNat_mod, UInt64.toNat_div, toNat_eciRange,
    UInt64.reduceToNat]
  omega

theorem ofEcgi_ofParts (plmn : Plmn) (enb : EnbId) (cell : CellId) :
    ofEcgi (.ofParts plmn (.ofParts enb cell)) = ofParts plmn enb := by
  have hc := cell.val.toNat_lt
  apply ext_toNat
  rw [toNat_ofEcgi, Ecgi.toNat_ofParts, Eci.toNat_ofParts, toNat_ofParts]
  omega

theorem enbId_ofEcgi (e : Ecgi) : (ofEcgi e).enbId = e.enbId := by
  apply EnbId.ext_toNat
  rw [toNat_enbId, toNat_ofEcgi, Ecgi.toNat_enbId]
  omega

theorem enbId_ofParts (plmn : Plmn) (h : enb.val ≤ EnbId.max) :
    (ofParts plmn enb).enbId = enb := by
  have he := EnbId.le_max_iff.1 h
  apply EnbId.ext_toNat
  rw [toNat_enbId, toNat_ofParts]
  omega

theorem ofEcgi_eq_iff : ofEcgi e = ofEcgi e' ↔
    ∀ i, 8 ≤ i → e.val.toNat.testBit i = e'.val.toNat.testBit i := by
  have hd : ofEcgi e = ofEcgi e' ↔ e.val.toNat / 2 ^ 8 = e'.val.toNat / 2 ^ 8 := by
    constructor
    · intro h
      have hn := congrArg (fun g => g.val.toNat) h
      simp only [toNat_ofEcgi] at hn
      omega
    · intro h
      apply ext_toNat
      rw [toNat_ofEcgi, toNat_ofEcgi]
      omega
  rw [hd]
  constructor
  · intro h i hi
    have hb := congrArg (fun n => n.testBit (i - 8)) h
    simpa only [Nat.testBit_div_two_pow, Nat.sub_add_cancel hi] using hb
  · intro h
    apply Nat.eq_of_testBit_eq
    intro i
    rw [Nat.testBit_div_two_pow, Nat.testBit_div_two_pow]
    exact h _ (Nat.le_add_left 8 i)

end GEnbId

namespace Ecgi

theorem parts_ofParts (plmn : Plmn) (cell : CellId) (h : enb.val ≤ EnbId.max) :
    (ofParts plmn (.ofParts enb cell)).plmnU24 = plmn.u24 ∧
      (ofParts plmn (.ofParts enb cell)).eci = .ofParts enb cell ∧
      (ofParts plmn (.ofParts enb cell)).enbId = enb ∧
      (ofParts plmn (.ofParts enb cell)).cellId = cell := by
  have he := EnbId.le_max_iff.1 h
  have hp := plmn.toNat_u24_lt
  have hc := cell.val.toNat_lt
  have hval := toNat_ofParts plmn (.ofParts enb cell)
  rw [Eci.toNat_ofParts] at hval
  refine ⟨UInt32.toNat_inj.1 ?_, Eci.ext_toNat ?_, EnbId.ext_toNat ?_, CellId.ext_toNat ?_⟩
  · rw [toNat_plmnU24, hval]
    omega
  · rw [toNat_eci, hval, Eci.toNat_ofParts]
    omega
  · rw [toNat_enbId, hval]
    omega
  · rw [toNat_cellId, hval]
    omega

theorem eci_eq_or (e : Ecgi) : e.eci.val = e.enbId.val <<< 8 ||| e.cellId.val.toUInt32 := by
  have hc := e.cellId.val.toNat_lt
  have he : e.enbId.val.toNat < 2 ^ 20 := by
    rw [toNat_enbId]
    omega
  apply UInt32.toNat_inj.1
  rw [UInt32.toNat_or, UInt32.toNat_shiftLeft, UInt8.toNat_toUInt32,
    show (8 : UInt32).toNat % 32 = 8 from rfl, Nat.mod_eq_of_lt, ← Nat.shiftLeft_add_eq_or_of_lt hc,
    Nat.shiftLeft_eq, toNat_eci, toNat_enbId, toNat_cellId]
  · omega
  · rw [Nat.shiftLeft_eq]
    omega

theorem parts_inj {s s' : String} (hp : Plmn.parse s = .ok plmn) (hp' : Plmn.parse s' = .ok plmn')
    (he : enb.val ≤ EnbId.max) (he' : enb'.val ≤ EnbId.max)
    (h : ofParts plmn (.ofParts enb cell) = ofParts plmn' (.ofParts enb' cell')) :
    plmn = plmn' ∧ enb = enb' ∧ cell = cell' := by
  obtain ⟨hu, -, hn, hc⟩ := parts_ofParts plmn cell he
  obtain ⟨hu', -, hn', hc'⟩ := parts_ofParts plmn' cell' he'
  rw [h] at hu hn hc
  exact ⟨Plmn.eq_of_u24_eq hp hp' (hu.symm.trans hu'), hn.symm.trans hn', hc.symm.trans hc'⟩

/-- Both ways from the parts of a cell's identifier to that of its node agree, whatever the node
number. The parts come back while that has twenty bits, and the parts of any number that is taken
for a cell's identifier fit together. -/
theorem parts_exact :
    (∀ plmn enb cell,
      GEnbId.ofEcgi (.ofParts plmn (.ofParts enb cell)) = GEnbId.ofParts plmn enb) ∧
    (∀ plmn enb cell, enb.val ≤ EnbId.max →
      (ofParts plmn (.ofParts enb cell)).plmnU24 = plmn.u24 ∧
      (ofParts plmn (.ofParts enb cell)).eci = .ofParts enb cell ∧
      (ofParts plmn (.ofParts enb cell)).enbId = enb ∧
      (ofParts plmn (.ofParts enb cell)).cellId = cell ∧
      (GEnbId.ofParts plmn enb).enbId = enb) ∧
    (∀ s s' plmn plmn' enb enb' cell cell', Plmn.parse s = .ok plmn → Plmn.parse s' = .ok plmn' →
      enb.val ≤ EnbId.max → enb'.val ≤ EnbId.max →
      ofParts plmn (.ofParts enb cell) = ofParts plmn' (.ofParts enb' cell') →
      plmn = plmn' ∧ enb = enb' ∧ cell = cell') ∧
    ∀ e : Ecgi, e.eci.val = e.enbId.val <<< 8 ||| e.cellId.val.toUInt32 ∧
      (GEnbId.ofEcgi e).enbId = e.enbId ∧
      ∀ e', GEnbId.ofEcgi e = GEnbId.ofEcgi e' ↔
        ∀ i, 8 ≤ i → e.val.toNat.testBit i = e'.val.toNat.testBit i := by
  refine ⟨GEnbId.ofEcgi_ofParts, fun plmn enb cell h => ?_, fun s s' _ _ _ _ _ _ => parts_inj,
    fun e => ⟨e.eci_eq_or, GEnbId.enbId_ofEcgi e, fun e' => GEnbId.ofEcgi_eq_iff⟩⟩
  obtain ⟨hu, he, hn, hc⟩ := parts_ofParts plmn cell h
  exact ⟨hu, he, hn, hc, GEnbId.enbId_ofParts plmn h⟩

/-- The highest node number of twenty bits in one network, and one of twenty-one bits that is taken
for it. -/
theorem wide_number_confused :
    let plmn : Plmn := ⟨⟨0, 0, 1⟩, ⟨0, 1, 0⟩, 2⟩
    let enb : EnbId := ⟨0xfffff⟩
    let wide : EnbId := ⟨0x1fffff⟩
    let e := ofParts plmn (.ofParts enb ⟨255⟩)
    let e' := ofParts plmn (.ofParts wide ⟨0⟩)
    Plmn.parse "00101" = .ok plmn ∧ e.enbId = enb ∧ e.cellId = ⟨255⟩ ∧ e'.enbId ≠ wide ∧
      GEnbId.ofEcgi e' = GEnbId.ofParts plmn wide ∧ GEnbId.ofEcgi e = GEnbId.ofEcgi e' ∧
      ∀ enb' cell', enb'.val ≤ EnbId.max → ofParts plmn (.ofParts enb' cell') = e →
        enb' = enb ∧ cell' = ⟨255⟩ := by
  intro plmn enb wide e e'
  obtain ⟨hnode, hparts, hinj, -⟩ := parts_exact
  have hp : Plmn.parse "00101" = .ok plmn := by decide
  have he : enb.val ≤ EnbId.max := by decide
  obtain ⟨-, -, hn, hc, -⟩ := hparts plmn enb ⟨255⟩ he
  exact ⟨hp, hn, hc, by decide, hnode plmn wide ⟨0⟩, by decide, fun enb' cell' he' h =>
    (hinj _ _ _ _ _ _ _ _ hp hp he' he h).2⟩

end Ecgi

end E2Node
