import NumberingPlan.Json.Display
import NumberingPlan.Time.Calendar

/-! Instants, as seconds since the first of January 1970, and their text in universal time. A
fraction is kept to the microsecond: the fraction of the double is multiplied as doubles multiply,
and the product rounded with ties to even. -/
namespace NumberingPlan.Time

/-- Why a value has no date. -/
inductive Fault where
  | outOfRange
  | calendarRange
  | yearRange (year : Int)
  | undefined
  | notANumber (kind : String)
  deriving DecidableEq, Repr

def Fault.message : Fault → String
  | outOfRange => "timestamp out of range for platform time_t"
  | calendarRange => "[Errno 75] Value too large for defined data type"
  | yearRange year => s!"year {year} is out of range"
  | undefined => "Invalid value NaN (not a number)"
  | notANumber kind => "'" ++ kind ++ "' object cannot be interpreted as an integer"

/-- Whole seconds, and the microseconds after them. -/
structure Instant where
  seconds : Int
  micros : Nat
  deriving DecidableEq, Repr

namespace Instant

/-- One above the greatest number of seconds. -/
def bound : Int := 9223372036854775808

def ofSeconds (n : Int) : Except Fault Instant :=
  if -bound ≤ n && n < bound then .ok ⟨n, 0⟩ else .error .outOfRange

def ofDouble (negative : Bool) (m : Nat) (e : Int) : Except Fault Instant :=
  let (num, den) := Binary64.ratio m e
  let whole : Int := num / den
  let micros := match Binary64.nearest? (num % den * 1000000) den with
    | some (m, e) => let (n, d) := Binary64.ratio m e; roundDiv n d
    | none => 0
  let (seconds, micros) : Int × Nat :=
    if !negative then if 1000000 ≤ micros then (whole + 1, micros - 1000000) else (whole, micros)
    else if micros == 0 then (-whole, 0)
    else (-whole - 1, 1000000 - micros)
  if -bound ≤ seconds && seconds < bound then .ok ⟨seconds, micros⟩ else .error .outOfRange

def ofValue : Json → Except Fault Instant
  | .int n => ofSeconds n
  | .bool b => ofSeconds (if b then 1 else 0)
  | .float (.finite negative m e) => ofDouble negative m e
  | .float (.infinite _) => .error .outOfRange
  | .float .notANumber => .error .undefined
  | value => .error (.notANumber value.kindName)

/-- A number with at least as many digits as asked for. -/
def padded (width n : Nat) : String :=
  let digits := (toString n).toList
  String.ofList (List.replicate (width - digits.length) '0' ++ digits)

/-- The text of an instant: date, time, the fraction unless it is zero, and the zone. -/
def text (t : Instant) : Except Fault String :=
  let date := Date.ofDays (t.seconds / 86400)
  let clock := (t.seconds % 86400).toNat
  if 2147485547 < date.year || date.year < -2147481748 then .error .calendarRange
  else if date.year < 1 || 9999 < date.year then .error (.yearRange date.year)
  else
    let fraction := if t.micros == 0 then "" else "." ++ padded 6 t.micros
    .ok (padded 4 date.year.toNat ++ "-" ++ padded 2 date.month ++ "-" ++ padded 2 date.day ++
      "T" ++ padded 2 (clock / 3600) ++ ":" ++ padded 2 (clock / 60 % 60) ++ ":" ++
      padded 2 (clock % 60) ++ fraction ++ "+00:00")

/-- The text of an instant in a log that is read by people: date and time, and thousandths of a
second after a comma. -/
def stamp (t : Instant) : String :=
  let date := Date.ofDays (t.seconds / 86400)
  let clock := (t.seconds % 86400).toNat
  padded 4 date.year.toNat ++ "-" ++ padded 2 date.month ++ "-" ++ padded 2 date.day ++ " " ++
    padded 2 (clock / 3600) ++ ":" ++ padded 2 (clock / 60 % 60) ++ ":" ++ padded 2 (clock % 60) ++
    "," ++ padded 3 (t.micros / 1000)

end Instant

end NumberingPlan.Time
