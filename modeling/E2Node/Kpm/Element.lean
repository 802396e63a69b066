import E2Node.E2ap.Codec
import E2Node.E2ap.Failure
import E2Node.Text.Quoted
import E2Node.Time.Calendar

namespace E2Node.Kpm

structure TriggerStyle where
  type : Int32
  name : String
  format : Int32
  deriving DecidableEq

structure ReportStyle where
  type : Int32
  name : String
  headerFormat : Int32
  messageFormat : Int32
  deriving DecidableEq

structure Description where
  shortName : String
  oid : String
  description : String
  instanceId : Int32
  triggerStyles : List TriggerStyle
  reportStyles : List ReportStyle
  deriving DecidableEq

structure EventTrigger where
  periodMillis : UInt32
  deriving DecidableEq

structure Header where
  plmn : Octets
  gnb : UInt64
  sliceType : String
  sliceDifferentiator : String
  cellPlmn : Octets
  collectionStart : Int64
  deriving DecidableEq

def Header.collectionStartText? (h : Header) : Option String :=
  Calendar.text? h.collectionStart.toInt

structure Measurement where
  activeUes : UInt32
  deriving DecidableEq

def TriggerStyle.parts : Parts TriggerStyle (Int32 × String × Int32) where
  split s := (s.type, s.name, s.format)
  join := fun (a, b, c) => ⟨a, b, c⟩

def ReportStyle.parts : Parts ReportStyle (Int32 × String × Int32 × Int32) where
  split s := (s.type, s.name, s.headerFormat, s.messageFormat)
  join := fun (a, b, c, d) => ⟨a, b, c, d⟩

def Description.parts : Parts Description
    (String × String × String × Int32 × List TriggerStyle × List ReportStyle) where
  split d := (d.shortName, d.oid, d.description, d.instanceId, d.triggerStyles, d.reportStyles)
  join := fun (a, b, c, d, e, f) => ⟨a, b, c, d, e, f⟩

def EventTrigger.parts : Parts EventTrigger UInt32 where
  split := EventTrigger.periodMillis
  join := .mk

def Header.parts : Parts Header (Octets × UInt64 × String × String × Octets × Int64) where
  split h := (h.plmn, h.gnb, h.sliceType, h.sliceDifferentiator, h.cellPlmn, h.collectionStart)
  join := fun (a, b, c, d, e, f) => ⟨a, b, c, d, e, f⟩

def Measurement.parts : Parts Measurement UInt32 where
  split := Measurement.activeUes
  join := .mk

inductive CodecError
  | field (name reason : String)
  | malformed (fault : Wire.Fault)
  deriving DecidableEq

def CodecError.message : CodecError → String
  | .field name reason => s!"Invalid {name}: {reason}"
  | .malformed fault => s!"Serialization error: {fault.message}"

def CodecError.error (e : CodecError) : RequestError := .encoding e.message

/-- How the elements are written and read. -/
structure ElementCodec where
  description : Description → Except CodecError (List UInt8)
  trigger : EventTrigger → Except CodecError (List UInt8)
  readTrigger : List UInt8 → Except CodecError EventTrigger
  header : Header → Except CodecError (List UInt8)
  measurement : Measurement → Except CodecError (List UInt8)

section

open Wire.Codec

def triggerStyleCodec : Wire.Codec TriggerStyle :=
  (i32.pair (text.pair i32)).of TriggerStyle.parts

def reportStyleCodec : Wire.Codec ReportStyle :=
  (i32.pair (text.pair (i32.pair i32))).of ReportStyle.parts

def descriptionCodec : Wire.Codec Description :=
  (text.pair (text.pair (text.pair (i32.pair
    ((list triggerStyleCodec).pair (list reportStyleCodec)))))).of Description.parts

def triggerCodec : Wire.Codec EventTrigger := u32.of EventTrigger.parts

def headerCodec : Wire.Codec Header :=
  (octetTriple.pair (u64.pair (text.pair (text.pair (octetTriple.pair i64))))).of Header.parts

def measurementCodec : Wire.Codec Measurement := u32.of Measurement.parts

end

def Description.fault? (d : Description) : Option CodecError :=
  if d.shortName.isEmpty then some (.field "short name" "empty")
  else if d.oid.isEmpty then some (.field "oid" "empty")
  else if d.reportStyles.any (·.name.isEmpty) || d.triggerStyles.any (·.name.isEmpty) then
    some (.field "style name" "empty")
  else none

def EventTrigger.fault? (t : EventTrigger) : Option CodecError :=
  if t.periodMillis = 0 then some (.field "report period" "must be positive") else none

def decimal? : Nat → List Char → Option Nat
  | acc, [] => some acc
  | acc, c :: cs =>
      if '0' ≤ c ∧ c ≤ '9' then decimal? (10 * acc + (c.toNat - 48)) cs else none

def isOctetText (s : List Char) : Bool :=
  let digits := match s with
    | '+' :: rest => rest
    | s => s
  match digits with
  | [] => false
  | digits =>
      match decimal? 0 digits with
      | some n => n ≤ 255
      | none => false

def Header.fault? (h : Header) : Option CodecError :=
  if !isOctetText h.sliceType.toList then
    some (.field "sst" (Quoted.ofString h.sliceType ++ " is not an 8-bit value"))
  else if h.sliceDifferentiator.utf8ByteSize ≠ 3 then
    some (.field "sd" (Quoted.ofString h.sliceDifferentiator ++ " is not 3 octets"))
  else none

def checked {α : Type} (fault? : α → Option CodecError) (c : Wire.Codec α) (a : α) :
    Except CodecError (List UInt8) :=
  match fault? a with
  | some e => .error e
  | none => .ok (c.encode a)

def readTrigger (bytes : List UInt8) : Except CodecError EventTrigger :=
  match triggerCodec.read bytes with
  | .error e => .error (.malformed e)
  | .ok t =>
      match t.fault? with
      | some e => .error e
      | none => .ok t

def ElementCodec.standard : ElementCodec where
  description := checked Description.fault? descriptionCodec
  trigger := checked EventTrigger.fault? triggerCodec
  readTrigger := Kpm.readTrigger
  header := checked Header.fault? headerCodec
  measurement m := .ok (measurementCodec.encode m)

end E2Node.Kpm
