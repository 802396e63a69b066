import E2Node.Wire.Parts

namespace E2Node.Wire

inductive Fault
  | ended
  | notText
  | flag (byte : UInt8)
  | presence (byte : UInt8)
  | alternative (index count : Nat)
  | other (wording : String)
  deriving DecidableEq

def Fault.message : Fault → String
  | .ended => "io error: unexpected end of file"
  | .notText => "string is not valid utf8"
  | .flag b => s!"invalid u8 while decoding bool, expected 0 or 1, found {b.toNat}"
  | .presence b => s!"tag for enum is not valid, found {b.toNat}"
  | .alternative i n => s!"invalid value: integer `{i}`, expected variant index 0 <= i < {n}"
  | .other wording => wording

/-- Writes a value, and reads one from the front of a byte list, giving back what follows it. -/
structure Codec (α : Type) where
  encode : α → List UInt8
  decode : List UInt8 → Except Fault (α × List UInt8)

def leBytes : Nat → Nat → List UInt8
  | 0, _ => []
  | k + 1, n => UInt8.ofNat n :: leBytes k (n / 256)

def leValue : List UInt8 → Nat
  | [] => 0
  | b :: bs => b.toNat + 256 * leValue bs

def take (n : Nat) (bytes : List UInt8) : Except Fault (List UInt8 × List UInt8) :=
  if n ≤ bytes.length then .ok (bytes.take n, bytes.drop n) else .error .ended

/-- Any value of the type from the first bytes: trailing bytes are allowed. -/
def Codec.read {α : Type} (c : Codec α) (bytes : List UInt8) : Except Fault α :=
  (c.decode bytes).map Prod.fst

namespace Codec

variable {α β : Type}

def word (k : Nat) : Codec Nat where
  encode := leBytes k
  decode bytes := (take k bytes).map fun (bs, rest) => (leValue bs, rest)

def via (c : Codec β) (put : α → β) (get : β → α) : Codec α where
  encode a := c.encode (put a)
  decode bytes := (c.decode bytes).map fun (b, rest) => (get b, rest)

def of (c : Codec β) (p : Parts α β) : Codec α := c.via p.split p.join

def u8 : Codec UInt8 := (word 1).via UInt8.toNat UInt8.ofNat

def u16 : Codec UInt16 := (word 2).via UInt16.toNat UInt16.ofNat

def u32 : Codec UInt32 := (word 4).via UInt32.toNat UInt32.ofNat

def u64 : Codec UInt64 := (word 8).via UInt64.toNat UInt64.ofNat

def i32 : Codec Int32 := u32.via Int32.toUInt32 UInt32.toInt32

def i64 : Codec Int64 := u64.via Int64.toUInt64 UInt64.toInt64

def pair (a : Codec α) (b : Codec β) : Codec (α × β) where
  encode p := a.encode p.1 ++ b.encode p.2
  decode bytes :=
    match a.decode bytes with
    | .error e => .error e
    | .ok (x, rest) =>
        match b.decode rest with
        | .error e => .error e
        | .ok (y, rest) => .ok ((x, y), rest)

def flag : Codec Bool where
  encode b := u8.encode (if b then 1 else 0)
  decode bytes :=
    match u8.decode bytes with
    | .error e => .error e
    | .ok (b, rest) =>
        if b = 0 then .ok (false, rest)
        else if b = 1 then .ok (true, rest)
        else .error (.flag b)

def option (c : Codec α) : Codec (Option α) where
  encode
    | none => u8.encode 0
    | some a => u8.encode 1 ++ c.encode a
  decode bytes :=
    match u8.decode bytes with
    | .error e => .error e
    | .ok (b, rest) =>
        if b = 0 then .ok (none, rest)
        else if b = 1 then (c.decode rest).map fun (a, rest) => (some a, rest)
        else .error (.presence b)

def decodeMany (c : Codec α) : Nat → List UInt8 → Except Fault (List α × List UInt8)
  | 0, bytes => .ok ([], bytes)
  | n + 1, bytes =>
      match c.decode bytes with
      | .error e => .error e
      | .ok (a, rest) =>
          match decodeMany c n rest with
          | .error e => .error e
          | .ok (as, rest) => .ok (a :: as, rest)

def list (c : Codec α) : Codec (List α) where
  encode as := (word 8).encode as.length ++ as.flatMap c.encode
  decode bytes :=
    match (word 8).decode bytes with
    | .error e => .error e
    | .ok (n, rest) => decodeMany c n rest

def octets : Codec (List UInt8) where
  encode bs := (word 8).encode bs.length ++ bs
  decode bytes :=
    match (word 8).decode bytes with
    | .error e => .error e
    | .ok (n, rest) => take n rest

def text : Codec String where
  encode s := octets.encode s.toUTF8.toList
  decode bytes :=
    match octets.decode bytes with
    | .error e => .error e
    | .ok (bs, rest) =>
        match String.fromUTF8? ⟨bs.toArray⟩ with
        | some s => .ok (s, rest)
        | none => .error .notText

def oneOf [BEq α] (cases : List α) : Codec α where
  encode a := (word 4).encode (cases.idxOf a)
  decode bytes :=
    match (word 4).decode bytes with
    | .error e => .error e
    | .ok (i, rest) =>
        match cases[i]? with
        | some a => .ok (a, rest)
        | none => .error (.alternative i cases.length)

def alternatives {κ : Type} [BEq κ] {B : κ → Type} (kinds : List κ) (body : (k : κ) → Codec (B k)) :
    Codec (Sigma B) where
  encode s := (word 4).encode (kinds.idxOf s.1) ++ (body s.1).encode s.2
  decode bytes :=
    match (word 4).decode bytes with
    | .error e => .error e
    | .ok (i, rest) =>
        match kinds[i]? with
        | some k => ((body k).decode rest).map fun (b, rest) => (⟨k, b⟩, rest)
        | none => .error (.alternative i kinds.length)

end Codec

end E2Node.Wire
