import E2Node.Number.Decimal

namespace E2Node.Toml

abbrev Key := List Char

/-- What brought a table about. -/
inductive Origin
  | header
  | implied
  | dotted
  | inline
  deriving DecidableEq

inductive Value
  | text (s : List Char)
  | integer (n : Int)
  | real (x : Binary64)
  | flag (b : Bool)
  | moment
  | list (items : List Value)
  | table (origin : Origin) (entries : List (Key × Value))
  /-- The tables of one array, each with a header of its own; the last one may still grow. -/
  | tables (earlier : List (List (Key × Value))) (last : List (Key × Value))

abbrev Entries := List (Key × Value)

namespace Entries

def get? (es : Entries) (k : Key) : Option Value := (es.find? (·.1 = k)).map Prod.snd

def set (es : Entries) (k : Key) (v : Value) : Entries := (k, v) :: es.filter (·.1 ≠ k)

/-- Adds a value under a dotted key. Only tables made by dotted keys receive it; it may pass through
implied tables and through the last table of an array on its way to another one. -/
def insert (v : Value) : List Key → Entries → Option Entries
  | [], _ => none
  | [k], es => if (get? es k).isNone then some (set es k v) else none
  | k :: l :: ks, es =>
      match get? es k with
      | none => (insert v (l :: ks) []).map fun sub => set es k (.table .dotted sub)
      | some (.table .dotted sub) =>
          (insert v (l :: ks) sub).map fun sub => set es k (.table .dotted sub)
      | some (.table .implied sub) =>
          if ks.isEmpty then none
          else (insert v (l :: ks) sub).map fun sub => set es k (.table .implied sub)
      | some (.tables earlier last) =>
          if ks.isEmpty then none
          else (insert v (l :: ks) last).map fun last => set es k (.tables earlier last)
      | some _ => none

def place (f : Option Value → Option Value) : List Key → Entries → Option Entries
  | [], _ => none
  | [k], es => (f (get? es k)).map (set es k)
  | k :: l :: ks, es =>
      match get? es k with
      | none => (place f (l :: ks) []).map fun sub => set es k (.table .implied sub)
      | some (.table .inline _) => none
      | some (.table origin sub) =>
          (place f (l :: ks) sub).map fun sub => set es k (.table origin sub)
      | some (.tables earlier last) =>
          (place f (l :: ks) last).map fun last => set es k (.tables earlier last)
      | some _ => none

def insertAll : List (List Key × Value) → Entries → Option Entries
  | [], es => some es
  | (path, v) :: body, es => (insert v path es).bind (insertAll body)

def define (body : List (List Key × Value)) : Option Value → Option Value
  | none => (insertAll body []).map (.table .header)
  | some (.table .implied es) => (insertAll body es).map (.table .header)
  | some _ => none

def append (body : List (List Key × Value)) : Option Value → Option Value
  | none => (insertAll body []).map (.tables [])
  | some (.tables earlier last) => (insertAll body []).map (.tables (earlier ++ [last]))
  | some _ => none

end Entries

end E2Node.Toml
