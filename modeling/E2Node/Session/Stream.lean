import E2Node.E2ap.Frame
import E2Node.Procedure.Serve

namespace E2Node

inductive ReaderPhase
  | reading
  | leaving
  | gone
  deriving DecidableEq

/-- What has come of the latest setup. -/
inductive SetupWait
  | idle
  | waiting
  | answered (outcome : SetupOutcome)
  | dropped
  | unsent (error : SessionError)
  deriving DecidableEq

/-- How far the task of a request has come. -/
inductive RequestPhase
  | waiting
  | replying (reply : Pdu)
  | sending (reply : Pdu)
  | replied (reply : Pdu)
  | lost
  deriving DecidableEq

def RequestPhase.after : Except SessionError Pdu → RequestPhase
  | .ok reply => .replying reply
  | .error _ => .lost

structure RequestTask where
  request : Pdu
  phase : RequestPhase
  deriving DecidableEq

structure StreamSession (σ : Type) where
  unread : List UInt8
  ended : Bool
  writable : Bool
  reader : ReaderPhase
  closed : Bool
  setup : SetupWait
  tasks : List RequestTask
  handlerState : σ
  written : List Pdu

namespace StreamSession

variable {σ : Type}

def start (s : σ) : StreamSession σ := ⟨[], false, true, .reading, false, .idle, [], s, []⟩

def deliver (s : StreamSession σ) (bytes : List UInt8) : StreamSession σ :=
  { s with unread := s.unread ++ bytes }

def hangUp (s : StreamSession σ) : StreamSession σ := { s with ended := true, writable := false }

/-- A message that does not fit a frame leaves no bytes on the stream. -/
def write (s : StreamSession σ) (p : Pdu) : Except SessionError (StreamSession σ) :=
  match Frame.ofPdu p with
  | .error e => .error e
  | .ok _ =>
      if s.writable then .ok { s with written := s.written ++ [p] } else .error (.io "broken pipe")

def send (s : StreamSession σ) (p : Pdu) : Except SessionError (StreamSession σ) :=
  if s.closed then .error .closed else s.write p

def close (s : StreamSession σ) : StreamSession σ := { s with closed := true }

def completeSetup (s : StreamSession σ) (o : SetupOutcome) : StreamSession σ :=
  match s.setup with
  | .waiting => { s with setup := .answered o }
  | _ => s

def dropSetup (s : StreamSession σ) : StreamSession σ :=
  match s.setup with
  | .waiting => { s with setup := .dropped }
  | _ => s

def route (s : StreamSession σ) : Pdu → StreamSession σ
  | .setupResponse m => s.completeSetup (.success m)
  | .setupFailure m => s.completeSetup (.failure m)
  | p => if p.IsRequest then { s with tasks := s.tasks ++ [⟨p, .waiting⟩] } else s

/-- The next step of the reader, unless it waits for bytes. -/
def readStep? (s : StreamSession σ) : Option (StreamSession σ) :=
  match s.reader with
  | .gone => none
  | .leaving => some { s.dropSetup with reader := .gone }
  | .reading =>
      if s.closed then some { s with reader := .leaving }
      else
        match Frame.scan s.unread with
        | .frame (.ok p) rest => some (route { s with unread := rest } p)
        | .frame (.error _) _ => some { s with closed := true, reader := .leaving }
        | .unfinished =>
            if s.ended then some { s with closed := true, reader := .leaving } else none

def setPhase (s : StreamSession σ) (n : Nat) (q : RequestPhase) : StreamSession σ :=
  { s with tasks := s.tasks.modify n fun t => { t with phase := q } }

def answer (h : Handler σ) (s : StreamSession σ) (n : Nat) : StreamSession σ :=
  match s.tasks[n]? with
  | some ⟨p, .waiting⟩ =>
      let r := h.serve p s.handlerState
      { s with handlerState := r.2 }.setPhase n (.after r.1)
  | _ => s

/-- A reply is lost if the session is closed by now. -/
def check (s : StreamSession σ) (n : Nat) : StreamSession σ :=
  match s.tasks[n]? with
  | some ⟨_, .replying reply⟩ => s.setPhase n (if s.closed then .lost else .sending reply)
  | _ => s

def reply (s : StreamSession σ) (n : Nat) : StreamSession σ :=
  match s.tasks[n]? with
  | some ⟨_, .sending reply⟩ =>
      match s.write reply with
      | .ok s => s.setPhase n (.replied reply)
      | .error _ => s.setPhase n .lost
  | _ => s

def serve (h : Handler σ) (s : StreamSession σ) (n : Nat) : StreamSession σ :=
  ((s.answer h n).check n).reply n

def registerSetup (s : StreamSession σ) : StreamSession σ := { s with setup := .waiting }

def sendSetup (s : StreamSession σ) (r : SetupRequest) : StreamSession σ :=
  match s.send (.setupRequest r) with
  | .ok s => s
  | .error e => { s with setup := .unsent e }

def setupResult? (s : StreamSession σ) : Option (Except SessionError SetupOutcome) :=
  match s.setup with
  | .answered o => some (.ok o)
  | .dropped => some (.error .closed)
  | .unsent e => some (.error e)
  | .waiting | .idle => none

def timeOut (s : StreamSession σ) : StreamSession σ := { s with setup := .idle }

def endSetup (s : StreamSession σ) : Except SessionError SetupOutcome × StreamSession σ :=
  match s.setupResult? with
  | some r => (r, s)
  | none => (.error .setupTimeout, s.timeOut)

def readAll : Nat → StreamSession σ → StreamSession σ
  | 0, s => s
  | n + 1, s =>
      match s.readStep? with
      | some s => readAll n s
      | none => s

def settle (h : Handler σ) (s : StreamSession σ) : StreamSession σ :=
  let s := s.readAll (s.unread.length + 3)
  (List.range s.tasks.length).foldl (serve h) s

def receive (s : StreamSession σ) : Option Pdu × StreamSession σ :=
  (s.written.head?, { s with written := s.written.tail })

end StreamSession

end E2Node
