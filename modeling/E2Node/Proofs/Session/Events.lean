import E2Node.Proofs.E2ap.Front
import E2Node.Session.Stream

namespace E2Node

def Pdu.outcome? : Pdu → Option SetupOutcome
  | .setupResponse m => some (.success m)
  | .setupFailure m => some (.failure m)
  | _ => none

def Pdu.IsOwn : Pdu → Bool
  | .setupRequest _ | .indication _ => true
  | _ => false

namespace StreamSession

open E2Node.Frame (Carries Bad Framed)

inductive Event
  | arrived (bytes : List UInt8)
  | ended
  | broke
  | closed (consumed : Bool)
  | took (p : Pdu)
  | failed (e : SessionError)
  | finished
  | noticed
  | left
  | answered (n : Nat) (p : Pdu) (reply : Except SessionError Pdu)
  | checked (n : Nat) (isOpen : Bool)
  | replied (n : Nat) (reply : Pdu) (isWritten : Bool)
  | sent (p : Pdu)
  | received (p : Pdu)
  | other

namespace Event

def arrivals : Event → List UInt8
  | .arrived bytes => bytes
  | _ => []

def taken : Event → List Pdu
  | .took p => [p]
  | _ => []

def task? : Event → Option Nat
  | .answered n _ _ | .checked n _ | .replied n _ _ => some n
  | _ => none

def written : Event → List Pdu
  | .sent p => [p]
  | .replied _ reply true => [reply]
  | _ => []

def reached : Event → List Pdu
  | .received p => [p]
  | _ => []

def Closes : Event → Prop
  | .closed _ | .failed _ | .finished => True
  | _ => False

end Event

variable {σ : Type}

/-- No message can be taken from the stream any more, whatever else arrives. -/
def consumed (s : StreamSession σ) : Bool :=
  match Frame.scan s.unread with
  | .frame (.ok _) _ => false
  | .frame (.error _) _ => true
  | .unfinished => s.ended

inductive Happens (s : StreamSession σ) : Event → StreamSession σ → Prop
  | arrives (bytes) (he : s.ended = false) : Happens s (.arrived bytes) (s.deliver bytes)
  | ends : Happens s .ended { s with ended := true }
  | breaks : Happens s .broke { s with writable := false }
  | closes : Happens s (.closed s.consumed) s.close
  | takes {p rest} (hr : s.reader = .reading) (hs : Frame.scan s.unread = .frame (.ok p) rest) :
      Happens s (.took p) (route { s with unread := rest } p)
  | fails {e rest} (hr : s.reader = .reading)
      (hs : Frame.scan s.unread = .frame (.error e) rest) :
      Happens s (.failed e) { s with closed := true, reader := .leaving }
  | finishes (hr : s.reader = .reading) (hs : Frame.scan s.unread = .unfinished)
      (he : s.ended = true) : Happens s .finished { s with closed := true, reader := .leaving }
  | notices (hr : s.reader = .reading) (hc : s.closed = true) :
      Happens s .noticed { s with reader := .leaving }
  | leaves (hr : s.reader = .leaving) : Happens s .left { s.dropSetup with reader := .gone }
  | answers (h : Handler σ) {n p} (hn : s.tasks[n]? = some ⟨p, .waiting⟩) :
      Happens s (.answered n p (h.serve p s.handlerState).1) (s.answer h n)
  | checks {n p reply} (hn : s.tasks[n]? = some ⟨p, .replying reply⟩) :
      Happens s (.checked n !s.closed) (s.check n)
  | replies {n p reply} (hn : s.tasks[n]? = some ⟨p, .sending reply⟩) :
      Happens s (.replied n reply (s.write reply).isOk) (s.reply n)
  | sends {p s'} (hp : p.IsOwn = true) (hs : s.send p = .ok s') : Happens s (.sent p) s'
  | receives {p rest} (hw : s.written = p :: rest) : Happens s (.received p) s.receive.2
  | registers : Happens s .other s.registerSetup
  | gives (e : SessionError) : Happens s .other { s with setup := .unsent e }
  | timesOut : Happens s .other s.timeOut
  | works (x : σ) : Happens s .other { s with handlerState := x }

inductive Course (x : σ) : List Event → StreamSession σ → Prop
  | start : Course x [] (start x)
  | next {es e s s'} (h : Course x es s) (hh : Happens s e s') : Course x (es ++ [e]) s'

variable {s s' : StreamSession σ} {e : Event} {p reply : Pdu} {h : Handler σ} {n : Nat}

theorem write_eq_ok_iff : s.write p = .ok s' ↔ s.writable = true ∧ Framed p ∧
    s' = { s with written := s.written ++ [p] } := by
  by_cases hf : Framed p
  · simp only [write, Frame.ofPdu_written hf, hf, true_and]
    cases s.writable <;> simp [eq_comm]
  · have he := Frame.ofPdu_eq_error_iff.2 ⟨Nat.not_le.1 hf, rfl⟩
    simp [write, he, hf]

theorem isOk_write_iff : (s.write p).isOk = true ↔ s.writable = true ∧ Framed p := by
  cases hw : s.write p with
  | error e =>
      refine iff_of_false nofun fun ⟨hs, hf⟩ => ?_
      rw [write_eq_ok_iff.2 ⟨hs, hf, rfl⟩] at hw
      cases hw
  | ok s' =>
      obtain ⟨hs, hf, -⟩ := write_eq_ok_iff.1 hw
      exact iff_of_true rfl ⟨hs, hf⟩

theorem send_eq_ok_iff : s.send p = .ok s' ↔ s.closed = false ∧ s.writable = true ∧ Framed p ∧
    s' = { s with written := s.written ++ [p] } := by
  rw [send]
  split
  · simp [*]
  · simp [*, write_eq_ok_iff]

theorem answer_eq (hn : s.tasks[n]? = some ⟨p, .waiting⟩) : s.answer h n =
    { s with handlerState := (h.serve p s.handlerState).2 }.setPhase n
      (.after (h.serve p s.handlerState).1) := by
  simp only [answer, hn]

theorem check_eq (hn : s.tasks[n]? = some ⟨p, .replying reply⟩) : s.check n =
    s.setPhase n (if s.closed then .lost else .sending reply) := by
  simp only [check, hn]

theorem reply_eq (hn : s.tasks[n]? = some ⟨p, .sending reply⟩) : s.reply n =
    { s with
      written := s.written ++ (Event.replied n reply (s.write reply).isOk).written }.setPhase n
        (if (s.write reply).isOk then .replied reply else .lost) := by
  simp only [StreamSession.reply, hn]
  cases hw : s.write reply with
  | ok s' =>
      obtain ⟨-, -, rfl⟩ := write_eq_ok_iff.1 hw
      rfl
  | error e => simp [Except.isOk, Except.toBool, Event.written]

theorem route_eq (s : StreamSession σ) (p : Pdu) : route s p = { s with
    setup := match p.outcome?, s.setup with
      | some o, .waiting => .answered o
      | _, setup => setup
    tasks := s.tasks ++ ([p].filter Pdu.IsRequest).map (.mk · .waiting) } := by
  obtain ⟨unread, ended, writable, reader, closed, setup, tasks, handlerState, written⟩ := s
  cases p with
  | setupResponse | setupFailure =>
      cases setup <;> simp [route, completeSetup, Pdu.outcome?, Pdu.IsRequest]
  | subscriptionRequest | subscriptionDeleteRequest | controlRequest | connectionUpdate => rfl
  | _ => simp [route, Pdu.outcome?, Pdu.IsRequest]

end StreamSession

end E2Node
