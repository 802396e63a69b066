import E2Node.Proofs.Config.Layout
import E2Node.Proofs.Json.Rereading

namespace E2Node

theorem mapM_eq_some_self_iff {α : Type} {f : α → Option α} {l : List α} :
    l.mapM f = some l ↔ ∀ a ∈ l, f a = some a := by
  induction l with
  | nil => exact ⟨nofun, fun _ => rfl⟩
  | cons a l ih =>
      rw [List.mapM_cons, List.forall_mem_cons, ← ih]
      simp [Option.bind_eq_some_iff]

theorem mapM_eq_none {α β : Type} {f : α → Option β} {l : List α} {a : α} (ha : a ∈ l)
    (h : f a = none) : l.mapM f = none := by
  induction l with
  | nil => exact nomatch ha
  | cons b l ih =>
      rw [List.mapM_cons]
      obtain rfl | ha := List.mem_cons.1 ha
      · rw [h]
        rfl
      · rw [ih ha]
        cases f b <;> rfl

def Location.reals (l : Location) : List Binary64 := [l.lat, l.lng]

def CellEntry.reals (c : CellEntry) : List Binary64 := c.location.reals ++ [c.txPowerDb]

def NodeEntry.reals (n : NodeEntry) : List Binary64 := n.cells.flatMap CellEntry.reals

def Configuration.reals (c : Configuration) : List Binary64 := c.nodes.flatMap NodeEntry.reals

section Replacing

variable (f : Binary64 → Option Binary64)

def Location.mapReals? (l : Location) : Option Location := do
  return ⟨← f l.lat, ← f l.lng⟩

def CellEntry.mapReals? (c : CellEntry) : Option CellEntry := do
  return { c with location := ← c.location.mapReals? f, txPowerDb := ← f c.txPowerDb }

def NodeEntry.mapReals? (n : NodeEntry) : Option NodeEntry := do
  return { n with cells := ← n.cells.mapM (CellEntry.mapReals? f) }

def Configuration.mapReals? (c : Configuration) : Option Configuration := do
  return { c with nodes := ← c.nodes.mapM (NodeEntry.mapReals? f) }

variable {f}

theorem CellEntry.mapReals?_eq_self_iff {c : CellEntry} :
    c.mapReals? f = some c ↔ ∀ x ∈ c.reals, f x = some x := by
  obtain ⟨id, ⟨lat, lng⟩, sector, maxUes, power⟩ := c
  simp [mapReals?, Location.mapReals?, reals, Location.reals, Option.bind_eq_some_iff, and_assoc]

theorem CellEntry.mapReals?_eq_none {c : CellEntry} {x : Binary64} (hx : x ∈ c.reals)
    (h : f x = none) : c.mapReals? f = none := by
  simp only [reals, Location.reals, List.cons_append, List.nil_append, List.mem_cons,
    List.not_mem_nil, or_false] at hx
  obtain rfl | rfl | rfl := hx <;> simp [mapReals?, Location.mapReals?, h]

theorem NodeEntry.mapReals?_eq_self_iff {n : NodeEntry} :
    n.mapReals? f = some n ↔ ∀ x ∈ n.reals, f x = some x := by
  have hc : n.mapReals? f = some n ↔ n.cells.mapM (CellEntry.mapReals? f) = some n.cells := by
    obtain ⟨gnb, controllers, cells⟩ := n
    simp [mapReals?, Option.bind_eq_some_iff]
  simp only [hc, mapM_eq_some_self_iff, CellEntry.mapReals?_eq_self_iff, reals,
    List.forall_mem_flatMap]

theorem NodeEntry.mapReals?_eq_none {n : NodeEntry} {x : Binary64} (hx : x ∈ n.reals)
    (h : f x = none) : n.mapReals? f = none := by
  obtain ⟨c, hc, hx⟩ := List.mem_flatMap.1 hx
  simp [mapReals?, mapM_eq_none hc (CellEntry.mapReals?_eq_none hx h)]

theorem Configuration.mapReals?_eq_self_iff {c : Configuration} :
    c.mapReals? f = some c ↔ ∀ x ∈ c.reals, f x = some x := by
  have hn : c.mapReals? f = some c ↔ c.nodes.mapM (NodeEntry.mapReals? f) = some c.nodes := by
    obtain ⟨plmn, ueCount, controllers, nodes, level⟩ := c
    simp [mapReals?, Option.bind_eq_some_iff]
  simp only [hn, mapM_eq_some_self_iff, NodeEntry.mapReals?_eq_self_iff, reals,
    List.forall_mem_flatMap]

theorem Configuration.mapReals?_eq_none {c : Configuration} {x : Binary64} (hx : x ∈ c.reals)
    (h : f x = none) : c.mapReals? f = none := by
  obtain ⟨n, hn, hx⟩ := List.mem_flatMap.1 hx
  simp [mapReals?, mapM_eq_none hn (NodeEntry.mapReals?_eq_none hx h)]

end Replacing

namespace Json

theorem writable_ofInt (n : Int) : (ofInt n).Writable := .number (Numeral.wellFormed_ofInt n)

theorem writable_ofReal (x : Binary64) : (ofReal x).Writable := by
  rw [ofReal]
  split
  · exact .number x.wellFormed_numeral
  · exact .null

theorem writable_ofFields {fields : List (String × Tree)} (h : ∀ f ∈ fields, f.2.Writable) :
    (ofFields fields).Writable := by
  refine .record (fun e he => ?_) (fun e he => ?_) <;> obtain ⟨f, hf, rfl⟩ := List.mem_map.1 he
  · rfl
  · exact h f hf

theorem writable_list {α : Type} {write : α → Tree} (h : ∀ a, (write a).Writable) (l : List α) :
    (Tree.list (l.map write)).Writable := by
  refine .list fun t ht => ?_
  obtain ⟨a, -, rfl⟩ := List.mem_map.1 ht
  exact h a

theorem writable_ofLocation (l : Location) : (ofLocation l).Writable := by
  apply writable_ofFields
  simp only [List.forall_mem_cons]
  exact ⟨writable_ofReal _, writable_ofReal _, nofun⟩

theorem writable_ofSector (s : SectorEntry) : (ofSector s).Writable := by
  apply writable_ofFields
  simp only [List.forall_mem_cons]
  exact ⟨writable_ofInt _, writable_ofInt _, nofun⟩

theorem writable_ofCell (c : CellEntry) : (ofCell c).Writable := by
  apply writable_ofFields
  simp only [List.forall_mem_append, List.forall_mem_cons]
  refine ⟨⟨⟨writable_ofInt _, writable_ofLocation _, nofun⟩, fun f hf => ?_⟩,
    writable_ofInt _, writable_ofReal _, nofun⟩
  cases hs : c.sector with
  | none => simp [hs] at hf
  | some s =>
      obtain rfl : f = ("sector", ofSector s) := by simpa [hs] using hf
      exact writable_ofSector s

theorem writable_ofNode (n : NodeEntry) : (ofNode n).Writable := by
  apply writable_ofFields
  simp only [List.forall_mem_cons]
  exact ⟨writable_ofInt _, writable_list (fun _ => .text _) _, writable_list writable_ofCell _,
    nofun⟩

theorem writable_ofController (c : ControllerEntry) : (ofController c).Writable := by
  apply writable_ofFields
  simp only [List.forall_mem_cons]
  exact ⟨.text _, .text _, writable_ofInt _, nofun⟩

theorem writable_ofConfiguration (c : Configuration) : (ofConfiguration c).Writable := by
  have hl : (ofFields [("level", ofText c.logLevel)]).Writable := by
    apply writable_ofFields
    simp only [List.forall_mem_cons]
    exact ⟨.text _, nofun⟩
  apply writable_ofFields
  simp only [List.forall_mem_cons]
  exact ⟨.text _, writable_ofInt _, writable_list writable_ofController _,
    writable_list writable_ofNode _, hl, nofun⟩

theorem integer?_ofInt {n : Int} (h : Int64.minValue.toInt ≤ n) (h' : n < UInt64.size) :
    integer? (.ofInt n) = some n := by
  have hw : (Numeral.ofInt n).isWhole = true := rfl
  have hv : Numeral.readDigits 0 (Numeral.ofInt n).whole = n.natAbs :=
    Numeral.readDigits_digitsOf _
  rw [integer?, hw, hv]
  by_cases hneg : n < 0
  · have hn : (Numeral.ofInt n).negative = true := decide_eq_true hneg
    rw [hn]
    simp only [Bool.not_true, Bool.false_eq_true, if_false, if_true]
    rw [if_pos ⟨by omega, by omega⟩]
    congr 1
    omega
  · have hn : (Numeral.ofInt n).negative = false := decide_eq_false hneg
    rw [hn]
    simp only [Bool.not_true, Bool.false_eq_true, if_false]
    rw [if_pos (by omega)]
    congr 1
    omega

theorem natural_ofInt {n : Nat} (h : n < UInt64.size) : dialect.natural (ofInt n) = some n := by
  have hmin : Int64.minValue.toInt ≤ n := Int.le_trans (by decide) (Int.natCast_nonneg n)
  simp only [dialect, ofInt, integer?_ofInt hmin (by omega)]
  rfl

theorem word_ofInt {limit n : Nat} (hl : limit ≤ UInt64.size) (h : n < limit) :
    dialect.word limit (ofInt n) = some n := by
  rw [Dialect.word, natural_ofInt (by omega)]
  simp [h]

theorem u8_ofInt (x : UInt8) : dialect.u8 (ofInt x.toNat) = some x := by
  rw [Dialect.u8, word_ofInt (by decide) x.toNat_lt]
  simp

theorem u16_ofInt (x : UInt16) : dialect.u16 (ofInt x.toNat) = some x := by
  rw [Dialect.u16, word_ofInt (by decide) x.toNat_lt]
  simp

theorem u32_ofInt (x : UInt32) : dialect.u32 (ofInt x.toNat) = some x := by
  rw [Dialect.u32, word_ofInt (by decide) x.toNat_lt]
  simp

theorem u64_ofInt (x : UInt64) : dialect.u64 (ofInt x.toNat) = some x := by
  rw [Dialect.u64, word_ofInt (by decide) x.toNat_lt]
  simp

theorem i32_ofInt (x : Int32) : dialect.i32 (ofInt x.toInt) = some x := by
  have hle : Int32.minValue.toInt ≤ x.toInt := x.minValue_le_toInt
  have hge : x.toInt ≤ Int32.maxValue.toInt := x.toInt_le
  have hi : dialect.integer (ofInt x.toInt) = some x.toInt :=
    integer?_ofInt (Int.le_trans (by decide) hle) (Int.lt_of_le_of_lt hge (by decide))
  rw [Dialect.i32, hi]
  simp only [Option.filter_some, hle, hge, and_self, decide_true, if_true, Option.map_some,
    Int32.ofInt_toInt]

theorem text_ofText (s : String) : dialect.text (ofText s) = some s := by
  simp [dialect, ofText]

theorem list_map {α β : Type} {write : α → Tree} {read : Tree → Option β} {f : α → Option β}
    (h : ∀ a, read (write a) = f a) (l : List α) :
    dialect.list read (.list (l.map write)) = l.mapM f := by
  have hf : read ∘ write = f := funext h
  simp [Dialect.list, dialect, hf]

theorem list_map_self {α : Type} {write : α → Tree} {read : Tree → Option α}
    (h : ∀ a, read (write a) = some a) (l : List α) :
    dialect.list read (.list (l.map write)) = some l := by
  rw [list_map h]
  exact mapM_eq_some_self_iff.2 fun _ _ => rfl

theorem fields_ofFields (names : List String) (fields : List (String × Tree)) :
    dialect.fields names (ofFields fields) = pickFields names fields := by
  have h : (fields.map fun f => (some f.1.toList, f.2)).mapM namedEntry? = some fields := by
    rw [List.mapM_map]
    exact mapM_eq_some_self_iff.2 fun f _ => by simp [ namedEntry?]
  simp only [ofFields, dialect, h]
  rfl

/-- What a real number is taken for when it is read again. -/
def reread? (x : Binary64) : Option Binary64 := dialect.real (ofReal x)

theorem location_ofLocation (l : Location) :
    dialect.location (ofLocation l) = l.mapReals? reread? := by
  rw [Dialect.location, ofLocation, fields_ofFields]
  simp [pickFields, Dialect.required, Location.mapReals?, reread?]

theorem sector_ofSector (s : SectorEntry) : dialect.sector (ofSector s) = some s := by
  rw [Dialect.sector, ofSector, fields_ofFields]
  simp [pickFields, Dialect.required, Dialect.orElse, i32_ofInt]

theorem cell_ofCell (c : CellEntry) : dialect.cell (ofCell c) = c.mapReals? reread? := by
  rw [Dialect.cell, ofCell, fields_ofFields]
  have hp (s : SectorEntry) : dialect.isAbsent (ofSector s) = false := rfl
  cases hs : c.sector <;>
    simp [pickFields, Dialect.required, Dialect.orElse, Dialect.optional, u8_ofInt, u32_ofInt,
      location_ofLocation, sector_ofSector, CellEntry.mapReals?, reread?, hs, hp]

theorem node_ofNode (n : NodeEntry) : dialect.node (ofNode n) = n.mapReals? reread? := by
  rw [Dialect.node, ofNode, fields_ofFields]
  simp [pickFields, Dialect.required, u32_ofInt, list_map_self text_ofText, list_map cell_ofCell,
    NodeEntry.mapReals?]

theorem controller_ofController (c : ControllerEntry) :
    dialect.controller (ofController c) = some c := by
  rw [Dialect.controller, ofController, fields_ofFields]
  simp [pickFields, Dialect.required, Dialect.orElse, u16_ofInt, text_ofText]

theorem configuration_ofConfiguration (c : Configuration) :
    dialect.configuration (ofConfiguration c) = c.mapReals? reread? := by
  have hl : dialect.logLevel (ofFields [("level", ofText c.logLevel)]) = some c.logLevel := by
    rw [Dialect.logLevel, fields_ofFields]
    simp [pickFields, Dialect.orElse, text_ofText]
  rw [Dialect.configuration, ofConfiguration, fields_ofFields]
  simp [pickFields, Dialect.required, Dialect.orElse, u64_ofInt, text_ofText, hl,
    list_map_self controller_ofController, list_map node_ofNode, Configuration.mapReals?]

def Rereads (x : Binary64) : Prop := (parse (ofReal x).render).bind dialect.real = some x

theorem rereads_iff {x : Binary64} : Rereads x ↔ reread? x = some x := by
  rw [Rereads, parse_render (writable_ofReal x)]
  rfl

example : reread? ⟨0x4024326ad0594861⟩ = some ⟨0x4024326ad0594862⟩ := by
  decide +kernel

theorem reread?_eq_none {x : Binary64} (h : x.isFinite = false) : reread? x = none := by
  rw [reread?, ofReal, h]
  rfl

end Json

namespace Configuration

theorem read?_toJson (c : Configuration) :
    read? .json c.toJson.toList = c.mapReals? Json.reread? := by
  rw [read?, toJson, String.toList_ofList, Json.parse_render (Json.writable_ofConfiguration c)]
  exact Json.configuration_ofConfiguration c

theorem parse_toJson_eq_ok_iff {c : Configuration} (accepted : c.fault? = none) :
    parse c.toJson "json" = .ok c ↔ ∀ x ∈ c.reals, Json.Rereads x := by
  have hf : ConfigFormat.named? "json" = some .json := rfl
  have hm : c.mapReals? Json.reread? = some c ↔ ∀ x ∈ c.reals, Json.Rereads x := by
    rw [mapReals?_eq_self_iff]
    exact forall₂_congr fun x _ => Json.rereads_iff.symm
  rw [← hm, ← read?_toJson]
  cases hread : read? .json c.toJson.toList with
  | none => simp only [parse, hf, hread, reduceCtorEq]
  | some d =>
      simp only [parse, hf, hread]
      rw [checked_eq_ok_iff, and_iff_left accepted, Option.some_inj]

/-- An accepted configuration whose real numbers are finite, and come back as they were, comes back
as it was; with a number that is not finite its text cannot be read. -/
theorem parse_toJson (c : Configuration) (accepted : c.fault? = none) :
    ((∀ x ∈ c.reals, x.isFinite = true → Json.Rereads x) → (∀ x ∈ c.reals, x.isFinite = true) →
      parse c.toJson "json" = .ok c) ∧
    ((∃ x ∈ c.reals, x.isFinite = false) →
      parse c.toJson "json" = .error (.unreadable .json)) := by
  have hf : ConfigFormat.named? "json" = some .json := rfl
  refine ⟨fun hr hfin => ?_, fun ⟨x, hx, hx'⟩ => ?_⟩
  · exact (parse_toJson_eq_ok_iff accepted).2 fun x hx => hr x hx (hfin x hx)
  · have hread : read? .json c.toJson.toList = none := by
      rw [read?_toJson]
      exact mapReals?_eq_none hx (Json.reread?_eq_none hx')
    simp only [parse, hf, hread]

theorem parse_toJson_of_two_cells :
    let c (power : Binary64) : Configuration := ⟨"20893", 18446744073709551615,
      [⟨"r\x00\n\"\\é𝄞", "", 36421⟩],
      [⟨1048575, ["r\x00\n\"\\é𝄞"],
        [⟨255, ⟨⟨0x404a428f5c28f5c3⟩, ⟨0x8000000000000000⟩⟩, none, 99999, Dialect.defaultPower⟩,
          ⟨0, ⟨⟨0x1⟩, ⟨0xc008000000000000⟩⟩, some ⟨-2147483648, 120⟩, 0, power⟩]⟩], "\t"⟩
    parse (c ⟨0x7fefffffffffffff⟩).toJson "json" = .ok (c ⟨0x7fefffffffffffff⟩) ∧
      parse (c Binary64.nan).toJson "json" = .error (.unreadable .json) := by
  intro c
  have hf : (c ⟨0x7fefffffffffffff⟩).fault? = none := by decide
  have hf' : (c Binary64.nan).fault? = none := by decide
  have hr : ∀ x ∈ (c ⟨0x7fefffffffffffff⟩).reals, Json.reread? x = some x := by decide +kernel
  exact ⟨(parse_toJson _ hf).1 (fun x hx _ => Json.rereads_iff.2 (hr x hx)) (by decide),
    (parse_toJson _ hf').2 ⟨Binary64.nan, by decide, by decide⟩⟩

end Configuration

end E2Node
