import E2Node.Yaml.Lexer

namespace E2Node.Yaml

inductive Node
  | scalar (style : Style) (tag : Option (List Char)) (text : List Char)
  | list (items : List Node)
  | record (entries : List (Node × Node))
  | alias (number : Nat)

structure Anchors where
  names : List (List Char × Nat)
  places : List (Nat × Nat)
  nodes : List (Nat × Node)

namespace Anchors

def empty : Anchors := ⟨[], [], []⟩

def begin (a : Anchors) (name : List Char) : Anchors :=
  let number := (a.names.map Prod.fst).eraseDups.length
  { a with names := (name, number) :: a.names, places := (number, a.places.length) :: a.places }

def finish (a : Anchors) (place : Nat) (n : Node) : Anchors :=
  { a with nodes := (place, n) :: a.nodes }

def node? (a : Anchors) (number : Nat) : Option Node :=
  (a.places.lookup number).bind fun place => a.nodes.lookup place

end Anchors

structure Properties where
  anchor : Option (List Char)
  tag : Option (List Char)

def standardHandles : List (List Char × List Char) :=
  [(['!'], ['!']), (['!', '!'], "tag:yaml.org,2002:".toList)]

def resolve? (handles : List (List Char × List Char)) (handle suffix : List Char) :
    Option (List Char) :=
  if handle.isEmpty then some suffix else (handles.lookup handle).map (· ++ suffix)

def readProperties (handles : List (List Char × List Char)) :
    List Token → Option (Properties × List Token)
  | .anchor a :: .tag h s :: ts => (resolve? handles h s).map fun t => (⟨some a, some t⟩, ts)
  | .tag h s :: .anchor a :: ts => (resolve? handles h s).map fun t => (⟨some a, some t⟩, ts)
  | .anchor a :: ts => some (⟨some a, none⟩, ts)
  | .tag h s :: ts => (resolve? handles h s).map fun t => (⟨none, some t⟩, ts)
  | ts => some (⟨none, none⟩, ts)

def emptyNode : Node := .scalar .plain none []

def scalarTag (tag : Option (List Char)) : Option (List Char) := tag.filter (· ≠ ['!'])

abbrev Read (α : Type) := List Token → Anchors → Option (α × List Token × Anchors)

def orEmpty (stops : Token → Bool) (read : Read Node) : Read Node := fun ts a =>
  match ts with
  | [] => none
  | t :: _ => if stops t then some (emptyNode, ts, a) else read ts a

def endsEntry (t : Token) : Bool := t = .entry || t = .blockEnd

def endsIndentless (t : Token) : Bool := t = .entry || t = .key || t = .value || t = .blockEnd

def endsPart (t : Token) : Bool := t = .key || t = .value || t = .blockEnd

def endsFlowItem (t : Token) : Bool := t = .comma || t = .flowListEnd

def endsFlowPart (t : Token) : Bool := t = .comma || t = .flowRecordEnd

def readBlockItems (node : Read Node) : Nat → Read (List Node)
  | 0, _, _ => none
  | n + 1, .entry :: ts, a => do
      let (x, ts, a) ← orEmpty endsEntry node ts a
      let (xs, ts, a) ← readBlockItems node n ts a
      return (x :: xs, ts, a)
  | _, .blockEnd :: ts, a => some ([], ts, a)
  | _, _, _ => none

/-- Entries of a list that is not indented further than the key it belongs to. -/
def readIndentless (node : Read Node) : Nat → Read (List Node)
  | 0, _, _ => none
  | n + 1, .entry :: ts, a => do
      let (x, ts, a) ← orEmpty endsIndentless node ts a
      let (xs, ts, a) ← readIndentless node n ts a
      return (x :: xs, ts, a)
  | _, ts, a => some ([], ts, a)

def readValue (stops : Token → Bool) (node : Read Node) : Read Node := fun ts a =>
  match ts with
  | .value :: ts => orEmpty stops node ts a
  | ts => some (emptyNode, ts, a)

def readBlockEntries (node : Read Node) : Nat → Read (List (Node × Node))
  | 0, _, _ => none
  | _, .blockEnd :: ts, a => some ([], ts, a)
  | n + 1, .key :: ts, a => do
      let (k, ts, a) ← orEmpty endsPart node ts a
      let (v, ts, a) ← readValue endsPart node ts a
      let (es, ts, a) ← readBlockEntries node n ts a
      return ((k, v) :: es, ts, a)
  | _, _, _ => none

/-- A pair in a list between brackets, behind its key mark. A missing key takes the next token with
it. -/
def readPair (node : Read Node) : Read Node := fun ts a => do
  let missing (t : Token) : Bool := t = .value || endsFlowItem t
  let (k, ts, a) ← match ts with
    | [] => none
    | t :: rest => if missing t then some (emptyNode, rest, a) else node ts a
  let (v, ts, a) ← readValue endsFlowItem node ts a
  return (.record [(k, v)], ts, a)

def readFlowItems (node : Read Node) : Nat → Bool → Read (List Node)
  | 0, _, _, _ => none
  | _, _, .flowListEnd :: ts, a => some ([], ts, a)
  | n + 1, first, ts, a => do
      let ts ← match first, ts with
        | true, ts => some ts
        | false, .comma :: ts => some ts
        | false, _ => none
      match ts with
      | .flowListEnd :: ts => return ([], ts, a)
      | .key :: ts =>
          let (x, ts, a) ← readPair node ts a
          let (xs, ts, a) ← readFlowItems node n false ts a
          return (x :: xs, ts, a)
      | ts =>
          let (x, ts, a) ← node ts a
          let (xs, ts, a) ← readFlowItems node n false ts a
          return (x :: xs, ts, a)

def readFlowEntries (node : Read Node) : Nat → Bool → Read (List (Node × Node))
  | 0, _, _, _ => none
  | _, _, .flowRecordEnd :: ts, a => some ([], ts, a)
  | n + 1, first, ts, a => do
      let ts ← match first, ts with
        | true, ts => some ts
        | false, .comma :: ts => some ts
        | false, _ => none
      match ts with
      | .flowRecordEnd :: ts => return ([], ts, a)
      | .key :: ts =>
          let (k, ts, a) ← orEmpty (fun t => t = .value || endsFlowPart t) node ts a
          let (v, ts, a) ← readValue endsFlowPart node ts a
          let (es, ts, a) ← readFlowEntries node n false ts a
          return ((k, v) :: es, ts, a)
      | ts =>
          let (k, ts, a) ← node ts a
          let (es, ts, a) ← readFlowEntries node n false ts a
          return ((k, emptyNode) :: es, ts, a)

def readContent (inBlock : Read Node) (valueInBlock : Read Node) (inFlow : Read Node)
    (block indentless : Bool) (p : Properties) : Read Node := fun ts a =>
  let n := ts.length + 1
  let list (r : Option (List Node × List Token × Anchors)) := r.map fun (xs, r) => (Node.list xs, r)
  let record (r : Option (List (Node × Node) × List Token × Anchors)) :=
    r.map fun (es, r) => (Node.record es, r)
  match ts with
  | .scalar style text :: ts => some (.scalar style (scalarTag p.tag) text, ts, a)
  | .flowListStart :: ts => list (readFlowItems inFlow n true ts a)
  | .flowRecordStart :: ts => record (readFlowEntries inFlow n true ts a)
  | .blockList :: rest =>
      if block then list (readBlockItems inBlock n rest a)
      else if p.anchor.isSome || p.tag.isSome then some (.scalar .plain p.tag [], ts, a)
      else none
  | .blockRecord :: rest =>
      if block then record (readBlockEntries valueInBlock n rest a)
      else if p.anchor.isSome || p.tag.isSome then some (.scalar .plain p.tag [], ts, a)
      else none
  | ts =>
      if indentless && ts.head? = some .entry then list (readIndentless inBlock n ts a)
      else if p.anchor.isSome || p.tag.isSome then some (.scalar .plain p.tag [], ts, a)
      else none

/-- A node at most so deep. In blocks there may be collections without brackets, and as a part of an
entry also lists without further indentation. -/
def readNode (handles : List (List Char × List Char)) : Nat → Bool → Bool → Read Node
  | 0, _, _, _, _ => none
  | n + 1, block, indentless, ts, a =>
      match ts with
      | .alias name :: ts => (a.names.lookup name).map fun i => (.alias i, ts, a)
      | ts =>
          match readProperties handles ts with
          | none => none
          | some (p, ts) =>
              let content := readContent (readNode handles n true false)
                (readNode handles n true true) (readNode handles n false false) block indentless p
              match p.anchor with
              | none => content ts a
              | some name =>
                  (content ts (a.begin name)).map fun (x, ts, b) =>
                    (x, ts, b.finish a.places.length x)

def readDirectives : Bool → List (List Char × List Char) → List Token →
    Option (List (List Char × List Char) × List Token)
  | versioned, handles, .version major minor :: ts =>
      if versioned || major ≠ 1 || (minor ≠ 1 && minor ≠ 2) then none
      else readDirectives true handles ts
  | versioned, handles, .handle h m :: ts =>
      if (handles.lookup h).isSome then none else readDirectives versioned ((h, m) :: handles) ts
  | _, handles, ts => some (handles ++ standardHandles, ts)

def isDirective : Token → Bool
  | .version .. | .handle .. => true
  | _ => false

def endsDocument (t : Token) : Bool :=
  isDirective t || t = .documentStart || t = .documentEnd || t = .streamEnd

def readDocument (ts : List Token) : Option (Node × List Token × Anchors) :=
  let n := ts.length + 1
  match ts with
  | [] => none
  | t :: rest =>
      if isDirective t || t = .documentStart then
        match readDirectives false [] ts with
        | some (handles, .documentStart :: ts) =>
            orEmpty endsDocument (readNode handles n true false) ts .empty
        | _ => none
      else if t = .streamEnd ∧ rest.isEmpty then none
      else readNode standardHandles n true false ts .empty

def parse (s : List Char) : Option (Node × Anchors) := do
  let (node, ts, a) ← readDocument (← tokens? s)
  if ts.dropWhile (· = .documentEnd) = [.streamEnd] then return (node, a) else none

end E2Node.Yaml
