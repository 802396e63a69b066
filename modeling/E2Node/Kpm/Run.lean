import E2Node.Kpm.Task

namespace E2Node.Kpm

def Phase.wake? : Phase → Option Nat
  | .waiting r => some r.due
  | .inFlight _ _ done => some done
  | _ => none

def Phase.due? : Phase → Option Nat
  | .waiting r | .looking r | .sending r _ | .inFlight r _ _ => some r.due
  | _ => none

namespace Reporting

/-- Enough steps for a task to come to a wait: four to go through a report that is due, for each
that is due by now, and some to begin and to end. -/
def stepsFor (s : Reporting) (t : ReportTask) : Nat :=
  12 + 4 * (s.now + 1 - (t.phase.due?.getD s.now))

def run (k : Service) : Nat → Reporting → Reporting
  | 0, s => s
  | n + 1, s =>
      match s.tasks.findSome? (s.step? k) with
      | some s => run k n s
      | none => s

def settle (k : Service) (s : Reporting) : Reporting :=
  s.run k ((s.tasks.map s.stepsFor).foldl (· + ·) 0)

def nextWake? (s : Reporting) : Option Nat := (s.tasks.filterMap fun t => t.phase.wake?).min?

def atTime (s : Reporting) (now : Nat) : Reporting := { s with now := now }

def leap (k : Service) (target : Nat) : Nat → Reporting → Reporting
  | 0, s => s.atTime target
  | n + 1, s =>
      match s.nextWake? with
      | some w =>
          if w ≤ target then leap k target n ((s.atTime (max s.now w)).settle k)
          else s.atTime target
      | none => s.atTime target

def advance (k : Service) (s : Reporting) (millis : Nat) : Reporting :=
  s.leap k (s.now + millis) (millis + 1)

def enrol (s : Reporting) (a : Admission) (session : SessionId) (period : Nat) :
    Except RegistryError Reporting :=
  let ticker := s.tickers.next
  match s.subscriptions.add ⟨a.key, a.accepted, a.refused, session, some ticker⟩ with
  | .error e => .error e
  | .ok subscriptions =>
      .ok { s with
        subscriptions := subscriptions
        tickers := s.tickers.create
        tasks := s.tasks ++ [⟨a.key, session, period, ticker, .starting⟩] }

def take (s : Reporting) (key : SubscriptionKey) :
    Except RegistryError (Subscription × Reporting) :=
  match s.subscriptions.remove key with
  | .error e => .error e
  | .ok (entry, subscriptions) => .ok (entry, { s with subscriptions := subscriptions })

def silence (s : Reporting) (entry : Subscription) : Reporting :=
  match entry.ticker with
  | some t => { s with tickers := s.tickers.stop t }
  | none => s

end Reporting

namespace Service

/-- A request that breaks the rules of all requests is an error. One without a report action, with
a period that cannot be read, or for a key in use is answered by a failure. -/
def subscription (k : Service) (session : SessionId) (r : SubscriptionRequest) (s : Reporting) :
    Except RequestError SubscriptionOutcome × Reporting :=
  match r.fault? with
  | some f => (.error f.error, s)
  | none =>
      let a := admission r
      if a.anyAccepted then
        match k.codec.readTrigger r.eventTrigger with
        | .error _ => (.ok (.failure (a.key.failure (.request .unspecified))), s)
        | .ok trigger =>
            match s.enrol a session trigger.periodMillis.toNat with
            | .ok s => (.ok (.success a.response), s)
            | .error (.alreadyExists _) =>
                (.ok (.failure (a.key.failure (.request .unspecified))), s)
            | .error e => (.error e.error, s)
      else (.ok (.failure (a.key.failure (.request .actionNotSupported))), s)

def delete (r : SubscriptionDeleteRequest) (s : Reporting) :
    Except RequestError DeleteOutcome × Reporting :=
  let key := SubscriptionKey.of r.request r.function
  match s.take key with
  | .error e => (.error e.error, s)
  | .ok (entry, s) => (.ok (.success key.deleteResponse), s.silence entry)

def model (k : Service) : ServiceModel Reporting where
  function := k.function
  subscription := k.subscription
  delete := delete
  control _ s := (.error (.notSupported "KPM offers no control actions"), s)
  update _ s := (.error (.notSupported "KPM does not handle connection updates"), s)

end Service

end E2Node.Kpm
