import E2Node.Config.Load
import E2Node.Launch.Agents
import E2Node.Launch.Arguments
import E2Node.Launch.LogFilter

namespace E2Node

/-- How far the program gets before it is interrupted, with the lines of its log. -/
inductive Course
  | printed (text : String)
  | refused
  | failed (log : List LogLine) (error : String)
  | aborted (log : List LogLine)
  | running (log later : List LogLine)
  deriving DecidableEq

namespace Course

def exitCode : Course → UInt8
  | .printed _ | .running .. => 0
  | .failed .. => 1
  | .refused => 2
  | .aborted _ => 101

def isRunning : Course → Bool
  | .running .. => true
  | _ => false

def log : Course → List LogLine
  | .printed _ | .refused => []
  | .failed log _ | .aborted log => log
  | .running log later => log ++ later

end Course

namespace Program

def info (message : String) : LogLine := ⟨.info, message⟩

def opening (name : String) (c : Configuration) (count : UInt64) : List LogLine :=
  [info "Starting RAN simulator E2 node", info s!"Configuration file: {name}",
    info s!"  PLMN: {c.plmn}", info s!"  Nodes: {c.nodes.length}", info s!"  UEs: {count.toNat}"]

def failures (what : String) (results : List (Except RequestError Unit)) : List LogLine :=
  results.filterMap fun
    | .error e => some ⟨.error, s!"{what}: {e.message}"⟩
    | .ok _ => none

def startReport (results : List (Except RequestError Unit)) : List LogLine :=
  let failed := failures "E2 agent failed to start" results
  let active := results.length - failed.length
  failed ++
    (if active = 0 ∧ results ≠ [] then [⟨.warn, "No E2 agent is connected"⟩] else []) ++
    [info s!"E2 node initialized successfully ({active} of {results.length} agents active)"]

def stopReport (results : List (Except RequestError Unit)) : List LogLine :=
  [info "Received shutdown signal", info "Shutting down E2 node"] ++
    failures "Error stopping E2 agent" results ++ [info "E2 node shutdown complete"]

def part : String := "ransim_e2node"

def failureText (message : String) : String := s!"Error: {message}"

/-- What surrounds the program. -/
structure Surroundings where
  file : String → Option (List UInt8)
  filter : Option String
  peer : String → Peer
  epoch : Int

def runConfigured (s : Surroundings) (o : Options) (c : Configuration) : Course :=
  let count := o.ueCount.getD c.ueCount
  let shows := (LogFilter.choose s.filter (o.logLevel.getD c.logLevel)).shows part
  let before := opening o.configName c count
  let ds := match c.cells with
    | .ok cells => Launch.candidates (.ofList cells) count.toNat
    | .error _ => []
  match Launch.create c count.toNat ds s.epoch with
  | .error .noRoom => .aborted (shows before)
  | .error e => .failed (shows before) (failureText e.message)
  | .ok l =>
      let (started, l) := l.call s.peer .start
      let (stopped, _) := l.call s.peer .stop
      .running (shows (before ++ startReport started)) (shows (stopReport stopped))

def run (s : Surroundings) (args : List String) : Course :=
  match Invocation.ofArguments args with
  | .help => .printed helpText
  | .version => .printed versionText
  | .refused => .refused
  | .run o =>
      match Configuration.ofFile o.configName (s.file o.configName) with
      | .error e => .failed [] (failureText e.message)
      | .ok c => runConfigured s o c

end Program

end E2Node
