namespace E2Node.Calendar

def secondsPerDay : Int := 86400

/-- The date that lies this many days after the first of January 1970, in the Gregorian calendar
extended both ways. Years are counted from March, so that a leap day ends its year. -/
def dateOfDays (days : Int) : Int × Int × Int :=
  let z := days + 719468
  let era := Int.fdiv z 146097
  let doe := z - era * 146097
  let yoe := (doe - doe / 1460 + doe / 36524 - doe / 146096) / 365
  let doy := doe - (365 * yoe + yoe / 4 - yoe / 100)
  let mp := (5 * doy + 2) / 153
  let day := doy - (153 * mp + 2) / 5 + 1
  let month := if mp < 10 then mp + 3 else mp - 9
  let year := yoe + era * 400 + (if month ≤ 2 then 1 else 0)
  (year, month, day)

def minYear : Int := -262143

def maxYear : Int := 262142

def padded (width n : Nat) : String :=
  let s := toString n
  String.ofList (List.replicate (width - s.length) '0') ++ s

def yearText (y : Int) : String :=
  if 0 ≤ y ∧ y ≤ 9999 then padded 4 y.toNat
  else (if y < 0 then "-" else "+") ++ padded 4 y.natAbs

def text? (millis : Int) : Option String :=
  let seconds := Int.fdiv millis 1000
  let fraction := (millis - seconds * 1000).toNat
  let days := Int.fdiv seconds secondsPerDay
  let time := (seconds - days * secondsPerDay).toNat
  let (year, month, day) := dateOfDays days
  if minYear ≤ year ∧ year ≤ maxYear then
    some (yearText year ++ "-" ++ padded 2 month.toNat ++ "-" ++ padded 2 day.toNat ++ "T" ++
      padded 2 (time / 3600) ++ ":" ++ padded 2 (time / 60 % 60) ++ ":" ++ padded 2 (time % 60) ++
      (if fraction = 0 then "" else "." ++ padded 3 fraction) ++ "+00:00")
  else none

end E2Node.Calendar
