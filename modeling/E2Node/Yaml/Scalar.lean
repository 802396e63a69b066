import E2Node.Yaml.Cursor

namespace E2Node.Yaml

def foldBreaks (lead trail : List Char) : List Char :=
  if lead = ['\n'] then if trail.isEmpty then [' '] else trail else lead ++ trail

/-- Blanks and line ends between two words. -/
structure Gap where
  blanks : List Char
  lead : List Char
  trail : List Char
  broken : Bool

namespace Gap

def empty : Gap := ⟨[], [], [], false⟩

def escaped : Gap := ⟨[], [], [], true⟩

def fold (g : Gap) : List Char := if g.broken then foldBreaks g.lead g.trail else g.blanks

def addBreak (g : Gap) (text : List Char) : Gap :=
  if g.broken then { g with trail := g.trail ++ text } else ⟨[], text, [], true⟩

/-- The gap at the cursor. Tabs may not stand for indentation up to the column `indent`. -/
def read (indent : Int) : Nat → Gap → Cursor → Option (Gap × Cursor)
  | 0, g, c => some (g, c)
  | n + 1, g, c =>
      match c.peek with
      | none => some (g, c)
      | some ch =>
          if isBlank ch then
            if g.broken then
              if ch = '\t' ∧ (c.column : Int) < indent then none else read indent n g (c.skip 1)
            else read indent n { g with blanks := g.blanks ++ [ch] } (c.skip 1)
          else if isBreak ch then read indent n (g.addBreak c.breakText) c.skipBreak
          else some (g, c)

end Gap

def isFlowMark (c : Char) : Bool := c = ',' || c = '[' || c = ']' || c = '\x7b' || c = '\x7d'

def readPlainWord (flow : Bool) : List Char → Option (List Char × List Char)
  | [] => some ([], [])
  | c :: s =>
      let next := s.head?
      if isBlank c || isBreak c then some ([], c :: s)
      else if flow && c = ':' && next.any fun d => isFlowMark d || d = '?' then none
      else if c = ':' && endsWord next || flow && isFlowMark c then some ([], c :: s)
      else (readPlainWord flow s).map fun r => (c :: r.1, r.2)

def readPlain (flow : Bool) (indent : Int) :
    Nat → Gap → List Char → Cursor → Option (List Char × Bool × Cursor)
  | 0, g, text, c => some (text, g.broken, c)
  | n + 1, g, text, c =>
      if c.atIndicator '-' || c.atIndicator '.' || c.peek = some '#' then some (text, g.broken, c)
      else
        match readPlainWord flow c.rest with
        | none => none
        | some (w, rest) =>
            let d := c.goTo rest
            let text := if w.isEmpty then text else text ++ g.fold ++ w
            let g := if w.isEmpty then g else Gap.empty
            if d.peek.isNone || !endsWord d.peek then some (text, g.broken, d)
            else
              match Gap.read indent (d.rest.length + 1) g d with
              | none => none
              | some (g, e) =>
                  if !flow && (e.column : Int) < indent then some (text, g.broken, e)
                  else readPlain flow indent n g text e

def hexValue? (c : Char) : Option Nat :=
  if '0' ≤ c ∧ c ≤ '9' then some (c.toNat - 48)
  else if 'a' ≤ c ∧ c ≤ 'f' then some (c.toNat - 87)
  else if 'A' ≤ c ∧ c ≤ 'F' then some (c.toNat - 55)
  else none

def readCode (width : Nat) (s : List Char) : Option (Char × List Char) :=
  match (s.take width).mapM hexValue? with
  | some ds =>
      let n := ds.foldl (fun n d => 16 * n + d) 0
      if ds.length = width ∧ n.isValidChar then some (Char.ofNat n, s.drop width) else none
  | none => none

def escapes : List (Char × Char) :=
  [('0', '\x00'), ('a', '\x07'), ('b', '\x08'), ('t', '\t'), ('\t', '\t'), ('n', '\n'),
    ('v', '\x0b'), ('f', '\x0c'), ('r', '\r'), ('e', '\x1b'), (' ', ' '), ('"', '"'), ('/', '/'),
    ('\\', '\\'), ('N', '\u0085'), ('_', '\u00a0'), ('L', '\u2028'), ('P', '\u2029')]

def readEscape : List Char → Option (Char × List Char)
  | 'x' :: s => readCode 2 s
  | 'u' :: s => readCode 4 s
  | 'U' :: s => readCode 8 s
  | e :: s => (escapes.lookup e).map fun c => (c, s)
  | [] => none

inductive WordEnd
  | quote
  | escapedBreak
  | gap
  deriving DecidableEq

def readQuotedWord (single : Bool) : Nat → List Char → Option (List Char × WordEnd × List Char)
  | 0, _ => none
  | n + 1, s =>
      match s with
      | [] => some ([], .gap, [])
      | c :: s' =>
          let cons (d : Char) (rest : List Char) :=
            (readQuotedWord single n rest).map fun r => (d :: r.1, r.2)
          if isBlank c || isBreak c then some ([], .gap, s)
          else if single then
            match c, s' with
            | '\'', '\'' :: rest => cons '\'' rest
            | '\'', _ => some ([], .quote, s)
            | c, rest => cons c rest
          else if c = '"' then some ([], .quote, s)
          else if c = '\\' then
            if s'.head?.any isBreak then some ([], .escapedBreak, s)
            else
              match readEscape s' with
              | some (d, rest) => cons d rest
              | none => none
          else cons c s'

def readQuoted (single : Bool) : Nat → List Char → Cursor → Option (List Char × Cursor)
  | 0, _, _ => none
  | n + 1, text, c =>
      if c.peek.isNone || c.atIndicator '-' || c.atIndicator '.' then none
      else
        match readQuotedWord single (c.rest.length + 1) c.rest with
        | none => none
        | some (w, how, rest) =>
            let d := c.goTo rest
            let next (g : Gap) (e : Cursor) :=
              (Gap.read 0 (e.rest.length + 1) g e).bind fun r =>
                readQuoted single n (text ++ w ++ r.1.fold) r.2
            match how with
            | .quote => some (text ++ w, d.skip 1)
            | .escapedBreak => next .escaped (d.skip 1).skipBreak
            | .gap => next .empty d

inductive Chomping
  | strip
  | clip
  | keep
  deriving DecidableEq

def chompingOf? : Option Char → Option Chomping
  | some '+' => some .keep
  | some '-' => some .strip
  | _ => none

def stepOf? (c : Option Char) : Option Nat := (c.filter Char.isDigit).map fun d => d.toNat - 48

def readBlockHead (c : Cursor) : Option (Chomping × Nat × Cursor) :=
  match chompingOf? c.peek, stepOf? c.peek with
  | some ch, _ =>
      match stepOf? (c.ahead 1) with
      | some 0 => none
      | some n => some (ch, n, c.skip 2)
      | none => some (ch, 0, c.skip 1)
  | none, some 0 => none
  | none, some n =>
      match chompingOf? (c.ahead 1) with
      | some ch => some (ch, n, c.skip 2)
      | none => some (.clip, n, c.skip 1)
  | none, none => some (.clip, 0, c)

def skipIndent (indent : Nat) (c : Cursor) : Cursor :=
  let n := (c.rest.takeWhile (· = ' ')).length
  c.skip (if indent = 0 then n else min n (indent - c.column))

def readEmptyLines (indent : Nat) :
    Nat → Nat → List Char → Cursor → Option (List Char × Nat × Cursor)
  | 0, widest, breaks, c => some (breaks, widest, c)
  | n + 1, widest, breaks, c =>
      let d := skipIndent indent c
      let widest := max widest d.column
      if d.peek = some '\t' ∧ (indent = 0 ∨ d.column < indent) then none
      else
        match d.peek with
        | some b =>
            if isBreak b then readEmptyLines indent n widest (breaks ++ d.breakText) d.skipBreak
            else some (breaks, widest, d)
        | none => some (breaks, widest, d)

/-- The lines of a block with this indentation. `lead` is the end of the line before, `trail` are
those of empty lines behind it. -/
def readBlockLines (literal : Bool) (indent : Nat) :
    Nat → List Char → List Char → List Char → Bool → Cursor →
    Option (List Char × List Char × List Char × Cursor)
  | 0, _, _, _, _, _ => none
  | n + 1, text, lead, trail, afterBlank, c =>
      if c.column ≠ indent ∨ c.peek.isNone then some (text, lead, trail, c)
      else
        let blank := c.peek.any isBlank
        let join := if literal || afterBlank || blank then lead ++ trail else foldBreaks lead trail
        let line := c.rest.takeWhile fun ch => !isBreak ch
        let d := c.skip line.length
        match readEmptyLines indent (d.rest.length + 1) 0 [] d.skipBreak with
        | none => none
        | some (trail, _, e) =>
            readBlockLines literal indent n (text ++ join ++ line) d.breakText trail blank e

def readBlock (literal : Bool) (parent : Int) (c : Cursor) : Option (List Char × Cursor) := do
  let (chomping, step, c) ← readBlockHead c
  let c ← c.afterComment?
  let given := if step = 0 then 0 else (max parent 0).toNat + step
  let (trail, widest, c) ← readEmptyLines given (c.rest.length + 1) 0 [] c
  let indent := if given = 0 then max widest (max (parent + 1) 1).toNat else given
  let (text, lead, trail, c) ←
    readBlockLines literal indent (c.rest.length + 2) [] [] trail false c
  let lead := if chomping = .strip then [] else lead
  let trail := if chomping = .keep then trail else []
  return (text ++ lead ++ trail, c)

end E2Node.Yaml
