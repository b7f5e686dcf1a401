/-! Days of the proleptic Gregorian calendar. Day zero is the first of January 1970. -/
namespace NumberingPlan.Time

/-- A day by year, month and day of the month. -/
structure Date where
  year : Int
  month : Nat
  day : Nat
  deriving DecidableEq, Repr

/-- Whether a year has a leap day. -/
def isLeap (year : Int) : Bool := year % 4 == 0 && (year % 100 != 0 || year % 400 == 0)

def daysInMonth (year : Int) (month : Nat) : Nat :=
  if month == 2 then (if isLeap year then 29 else 28)
  else if month == 4 || month == 6 || month == 9 || month == 11 then 30
  else 31

/-- The day of a number. Years begin in March here, so that a leap day ends its year, and repeat
every 400 years. -/
def Date.ofDays (days : Int) : Date :=
  let shifted := days + 719468
  let era := shifted / 146097
  let d := (shifted % 146097).toNat
  let y := (d - d / 1460 + d / 36524 - d / 146096) / 365
  let inYear := d - (365 * y + y / 4 - y / 100)
  let m := (5 * inYear + 2) / 153
  let day := inYear - (153 * m + 2) / 5 + 1
  let month := if m < 10 then m + 3 else m - 9
  let year : Int := y + era * 400
  ⟨if month ≤ 2 then year + 1 else year, month, day⟩

end NumberingPlan.Time
