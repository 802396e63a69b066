import E2Node.Config.Reading
import E2Node.Number.Decimal
import E2Node.Yaml.Node

namespace E2Node.Yaml

def readBase (base : Nat) (s : List Char) : Option Nat :=
  if s.isEmpty then none
  else s.foldlM (fun n c => ((hexValue? c).filter (· < base)).map (base * n + ·)) 0

def magnitude? : List Char → Option Nat
  | '0' :: 'x' :: s => readBase 16 s
  | '0' :: 'o' :: s => readBase 8 s
  | '0' :: 'b' :: s => readBase 2 s
  | '0' :: _ :: _ => none
  | s => readBase 10 s

def natural? : List Char → Option Nat
  | '+' :: s => magnitude? s
  | s => magnitude? s

def integer? : List Char → Option Int
  | '-' :: s => (magnitude? s).map fun n => -n
  | s => (natural? s).map Int.ofNat

def exponent? : List Char → Option (Option (Bool × List Char))
  | [] => some none
  | e :: s =>
      let (negative, ds) := match s with
        | '-' :: t => (true, t)
        | '+' :: t => (false, t)
        | t => (false, t)
      if (e = 'e' ∨ e = 'E') ∧ !ds.isEmpty ∧ ds.all Char.isDigit then some (some (negative, ds))
      else none

def numeral? (negative : Bool) (s : List Char) : Option Numeral :=
  let (whole, s) := s.span Char.isDigit
  let (fraction, s) := match s with
    | '.' :: s => s.span Char.isDigit
    | s => ([], s)
  if whole.isEmpty && fraction.isEmpty then none
  else (exponent? s).map fun e => ⟨negative, whole, fraction, e⟩

def isInfinity (s : List Char) : Bool := String.ofList s ∈ [".inf", ".Inf", ".INF"]

def realOf? (negative : Bool) (s : List Char) : Option Binary64 :=
  if isInfinity s then some (.infinity negative)
  else ((numeral? negative s).map .ofNumeral).filter (·.isFinite)

def real? : List Char → Option Binary64
  | '+' :: s => realOf? false s
  | '-' :: s => realOf? true s
  | s => if String.ofList s ∈ [".nan", ".NaN", ".NAN"] then some .nan else realOf? false s

def isNull (s : List Char) : Bool := String.ofList s ∈ ["~", "null", "Null", "NULL"]

def coreTag (name : String) : List Char := "tag:yaml.org,2002:".toList ++ name.toList

/-- What may be a number: a plain scalar, or a literal one that is tagged as such a number. -/
def numberText? (name : String) : Node → Option (List Char)
  | .scalar .plain _ s => some s
  | .scalar .literal tag s => if tag = some (coreTag name) then some s else none
  | _ => none

def text? : Node → Option String
  | .scalar _ _ s => some (String.ofList s)
  | _ => none

def isAbsent : Node → Bool
  | .scalar .plain none s => s.isEmpty || isNull s
  | .scalar .plain (some tag) s => tag = coreTag "null" && isNull s
  | _ => false

def Anchors.follow (a : Anchors) : Node → Option Node
  | .alias number => a.node? number
  | n => some n

def dialect (a : Anchors) : Dialect Node where
  text v := (a.follow v).bind text?
  natural v := ((a.follow v).bind (numberText? "int")).bind natural?
  integer v := ((a.follow v).bind (numberText? "int")).bind integer?
  real v := ((a.follow v).bind (numberText? "float")).bind real?
  items v :=
    match a.follow v with
    | some (.list vs) => some vs
    | some (.scalar .plain _ []) => some []
    | _ => none
  fields names v :=
    match a.follow v with
    | some (.record es) =>
        (es.mapM fun e => ((a.follow e.1).bind text?).map (·, e.2)).bind (pickFields names)
    | some (.scalar .plain _ []) => pickFields names ([] : List (String × Node))
    | _ => none
  isAbsent v := (a.follow v).any isAbsent

end E2Node.Yaml
