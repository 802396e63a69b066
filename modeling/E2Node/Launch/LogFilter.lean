import E2Node.Text.Split

namespace E2Node

inductive Level
  | error
  | warn
  | info
  | debug
  | trace
  deriving DecidableEq

namespace Level

def all : List Level := [.error, .warn, .info, .debug, .trace]

def name : Level → String
  | .error => "ERROR"
  | .warn => "WARN"
  | .info => "INFO"
  | .debug => "DEBUG"
  | .trace => "TRACE"

def depth : Level → Nat
  | .error => 1
  | .warn => 2
  | .info => 3
  | .debug => 4
  | .trace => 5

end Level

structure LogLine where
  level : Level
  message : String
  deriving DecidableEq

structure LogLimit where
  target : List Char
  depth : Nat
  deriving DecidableEq

abbrev LogFilter := List LogLimit

namespace LogLimit

def depth? (s : List Char) : Option Nat :=
  match String.ofList (s.map Char.toUpper), s with
  | "OFF", _ => some 0
  | n, s =>
      match Level.all.find? fun l => l.name = n with
      | some l => some l.depth
      | none =>
          match s with
          | [d] => if '0' ≤ d ∧ d ≤ '5' then some (d.toNat - 48) else none
          | _ => none

def isTarget (s : List Char) : Bool :=
  !s.isEmpty && s.all fun c => c.isAlphanum || c = '_' || c = ':' || c = '-'

def ofText? (s : List Char) : Option LogLimit :=
  match Text.splitFirst '=' s with
  | (w, none) =>
      match depth? w with
      | some d => some ⟨[], d⟩
      | none => if isTarget w then some ⟨w, Level.trace.depth⟩ else none
  | (w, some []) => if isTarget w then some ⟨w, Level.trace.depth⟩ else none
  | (w, some l) => if isTarget w then (depth? l).map (⟨w, ·⟩) else none

end LogLimit

namespace LogFilter

def pieces (s : String) : List (List Char) := (Text.split ',' s.toList).filter (· ≠ [])

def ofText? (s : String) : Option LogFilter := (pieces s).mapM LogLimit.ofText?

/-- The limits that can be read; if there are none, errors are shown. -/
def lenient (s : String) : LogFilter :=
  match (pieces s).filterMap LogLimit.ofText? with
  | [] => [⟨[], Level.error.depth⟩]
  | limits => limits

def choose (surroundings : Option String) (level : String) : LogFilter :=
  (surroundings.bind ofText?).getD (lenient level)

def prefer (best : LogLimit) (l : LogLimit) : LogLimit :=
  if best.target.length ≤ l.target.length then l else best

/-- How many levels are shown of a part. Without any limit for it there are none. -/
def depthOf (f : LogFilter) (part : String) : Nat :=
  ((f.filter fun l => l.target.isPrefixOf part.toList).foldl prefer ⟨[], 0⟩).depth

def shows (f : LogFilter) (part : String) (lines : List LogLine) : List LogLine :=
  lines.filter fun l => l.level.depth ≤ f.depthOf part

end LogFilter

end E2Node
