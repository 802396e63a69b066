import E2Node.E2ap.Codec
import E2Node.E2ap.Failure

namespace E2Node.Frame

def maxLength : Nat := 1048576

def headLength : Nat := 4

def head (n : Nat) : List UInt8 := (Wire.leBytes headLength n).reverse

def ofPdu (p : Pdu) : Except SessionError (List UInt8) :=
  let body := Wire.Codec.pdu.encode p
  if maxLength < body.length then .error (.frameTooLarge body.length)
  else .ok (head body.length ++ body)

def readBody (body : List UInt8) : Except SessionError Pdu :=
  (Wire.Codec.pdu.read body).mapError .malformed

/-- The bytes that writing a message puts on the stream: none if it does not fit a frame. -/
def written (p : Pdu) : List UInt8 :=
  match ofPdu p with
  | .ok frame => frame
  | .error _ => []

inductive Scan
  | frame (result : Except SessionError Pdu) (rest : List UInt8)
  | unfinished

/-- A length over the limit is refused before its body has arrived. -/
def scanBody (n : Nat) (bytes : List UInt8) : Scan :=
  if maxLength < n then .frame (.error (.frameTooLarge n)) bytes
  else
    match Wire.take n bytes with
    | .error _ => .unfinished
    | .ok (body, rest) => .frame (readBody body) rest

def scan (bytes : List UInt8) : Scan :=
  match Wire.take headLength bytes with
  | .error _ => .unfinished
  | .ok (head, rest) => scanBody (Wire.leValue head.reverse) rest

theorem take_length {n : Nat} {bytes taken rest : List UInt8}
    (h : Wire.take n bytes = .ok (taken, rest)) : rest.length + n = bytes.length := by
  unfold Wire.take at h
  split at h
  · cases h; simp; omega
  · cases h

theorem scanBody_length {n : Nat} {bytes rest : List UInt8} {result : Except SessionError Pdu}
    (h : scanBody n bytes = .frame result rest) : rest.length ≤ bytes.length := by
  unfold scanBody at h
  split at h
  · cases h; exact Nat.le_refl _
  · split at h
    · cases h
    · rename_i ht
      cases h
      have := take_length ht
      omega

theorem scan_length {bytes rest : List UInt8} {result : Except SessionError Pdu}
    (h : scan bytes = .frame result rest) : rest.length < bytes.length := by
  unfold scan at h
  split at h
  · cases h
  · rename_i ht
    have h1 := take_length ht
    have h2 := scanBody_length h
    simp only [headLength] at h1
    omega

inductive Tail
  | waiting (rest : List UInt8)
  | broken (error : SessionError)
  deriving DecidableEq

def drain (bytes : List UInt8) : List Pdu × Tail :=
  match h : scan bytes with
  | .unfinished => ([], .waiting bytes)
  | .frame (.error e) _ => ([], .broken e)
  | .frame (.ok p) rest =>
      have := scan_length h
      let r := drain rest
      (p :: r.1, r.2)
termination_by bytes.length

/-- A stream being read. -/
structure Intake where
  received : List Pdu
  tail : Tail
  deriving DecidableEq

namespace Intake

def empty : Intake := ⟨[], .waiting []⟩

def feed (i : Intake) (piece : List UInt8) : Intake :=
  match i.tail with
  | .broken _ => i
  | .waiting rest =>
      let r := drain (rest ++ piece)
      ⟨i.received ++ r.1, r.2⟩

/-- The error at the end of the stream: none if it ends before the length of a frame is
complete. -/
def atEnd (i : Intake) : Option SessionError :=
  match i.tail with
  | .broken e => some e
  | .waiting rest => if rest.length < headLength then none else some .cutShort

end Intake

end E2Node.Frame
