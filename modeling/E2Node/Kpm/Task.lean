import E2Node.E2ap.Indication
import E2Node.Kpm.Service
import E2Node.Population.Basic
import E2Node.Subscription.Registry

namespace E2Node.Kpm

/-- The timer and counter of a task, with the header of all its reports. -/
structure Rhythm where
  header : List UInt8
  due : Nat
  sequence : UInt32
  deriving DecidableEq

inductive Phase
  | starting
  | waiting (r : Rhythm)
  | looking (r : Rhythm)
  | sending (r : Rhythm) (i : Indication)
  | inFlight (r : Rhythm) (i : Indication) (done : Nat)
  /-- The task has failed or lost its session: it stops its ticker, then releases its entry. -/
  | failing
  | releasing
  deriving DecidableEq

structure ReportTask where
  key : SubscriptionKey
  session : SessionId
  period : Nat
  ticker : TickerId
  phase : Phase
  deriving DecidableEq

/-- What the model's requests and tasks act on. Times are in milliseconds. -/
structure Reporting where
  now : Nat
  epoch : Int
  population : Population
  subscriptions : Subscriptions
  tickers : Tickers
  tasks : List ReportTask
  links : List Link

/-- A tick that is handled later than this moves those after it. -/
def tolerance : Nat := 5

def nextDue (due now period : Nat) : Nat :=
  if due + tolerance < now then now + period else due + period

def Rhythm.tick (r : Rhythm) (now period : Nat) : Rhythm :=
  { r with due := nextDue r.due now period, sequence := r.sequence + 1 }

def report (k : SubscriptionKey) (action : ActionId) (r : Rhythm) (message : List UInt8) :
    Indication :=
  ⟨k.request, k.function, action, some r.sequence, .report, r.header, message, none⟩

namespace Reporting

def start (p : Population) (epoch : Int) : Reporting := ⟨0, epoch, p, .empty, .empty, [], []⟩

def wallClock (s : Reporting) : Int64 := Int64.ofInt (s.epoch + s.now)

def link? (s : Reporting) (id : SessionId) : Option Link := s.links[id.val]?

def isClosed (s : Reporting) (id : SessionId) : Bool :=
  match s.link? id with
  | some l => l.closed
  | none => true

def refusal? (s : Reporting) (id : SessionId) : Option SessionError :=
  match s.link? id with
  | some l => l.refusal?
  | none => some .closed

def sendDelay (s : Reporting) (id : SessionId) : Nat :=
  match s.link? id with
  | some l => l.sendDelay
  | none => 0

def modifyLink (s : Reporting) (id : SessionId) (f : Link → Link) : Reporting :=
  { s with links := s.links.modify id.val f }

def setPhase (s : Reporting) (t : TickerId) (p : Phase) : Reporting :=
  { s with tasks := s.tasks.map fun x => if x.ticker = t then { x with phase := p } else x }

def endTask (s : Reporting) (t : TickerId) : Reporting :=
  { s with tasks := s.tasks.filter fun x => x.ticker ≠ t }

def reportFor (k : Service) (s : Reporting) (t : ReportTask) (r : Rhythm) (entry : Subscription) :
    Option (Except RequestError Indication) :=
  match entry.accepted with
  | [] => none
  | a :: _ =>
      match k.codec.measurement (measurement s.population.size) with
      | .error e => some (.error e.error)
      | .ok message => some (report t.key a r message).checked

/-- One step of a task, unless it waits. -/
def step? (k : Service) (s : Reporting) (t : ReportTask) : Option Reporting :=
  match t.phase with
  | .starting =>
      match k.codec.header (k.header s.wallClock) with
      | .error _ => some (s.setPhase t.ticker .failing)
      | .ok h =>
          if t.period = 0 then some (s.endTask t.ticker)
          else some (s.setPhase t.ticker (.waiting ⟨h, s.now + t.period, 0⟩))
  | .waiting r =>
      if s.tickers.isStopped t.ticker then some (s.endTask t.ticker)
      else if s.isClosed t.session then some (s.setPhase t.ticker .failing)
      else if r.due ≤ s.now then some (s.setPhase t.ticker (.looking (r.tick s.now t.period)))
      else none
  | .looking r =>
      match (s.subscriptions.entries.get? t.key).bind (s.reportFor k t r) with
      | none => some (s.endTask t.ticker)
      | some (.error _) => some (s.setPhase t.ticker .failing)
      | some (.ok i) => some (s.setPhase t.ticker (.sending r i))
  | .sending r i =>
      if (s.refusal? t.session).isSome then some (s.setPhase t.ticker .failing)
      else some (s.setPhase t.ticker (.inFlight r i (s.now + s.sendDelay t.session)))
  | .inFlight r i done =>
      if done ≤ s.now then
        some ((s.modifyLink t.session fun l => l.record s.now i).setPhase t.ticker (.waiting r))
      else none
  | .failing =>
      some ({ s with tickers := s.tickers.stop t.ticker }.setPhase t.ticker .releasing)
  | .releasing =>
      some ({ s with subscriptions := s.subscriptions.release t.key t.ticker }.endTask t.ticker)

/-- A send that is under way may also return an error. -/
def cut? (s : Reporting) (t : ReportTask) : Option Reporting :=
  match t.phase with
  | .inFlight .. => some (s.setPhase t.ticker .failing)
  | _ => none

end Reporting

end E2Node.Kpm
