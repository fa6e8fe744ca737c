/-!
The proleptic Gregorian calendar. Days are counted from the first of January of year 0; a day
number, and a year with a day of it, determine each other.
-/
namespace InstallManifest.Time.Calendar

def isLeap (year : Int) : Bool := year % 4 = 0 && (year % 100 ≠ 0 || year % 400 = 0)

/-- The days of a month; months count from one. -/
def monthLength (year : Int) (month : Nat) : Nat :=
  if month = 2 then if isLeap year then 29 else 28
  else if month ∈ [4, 6, 9, 11] then 30 else 31

/-- The days of a year in front of a month. -/
def daysBeforeMonth (year : Int) (month : Nat) : Nat :=
  (List.range (month - 1)).foldl (fun days m => days + monthLength year (m + 1)) 0

/-- The days in front of a year. -/
def daysBeforeYear (year : Int) : Int :=
  let y := year - 1
  366 + 365 * y + y.fdiv 4 - y.fdiv 100 + y.fdiv 400

/-- The number of a day. -/
def dayNumber (year : Int) (month day : Nat) : Int :=
  daysBeforeYear year + daysBeforeMonth year month + day - 1

/-- The year that a day lies in. The mean length of a year gives one that is off by at most one. -/
def yearOf (day : Int) : Int :=
  let guess := (day * 400).fdiv 146097
  if day < daysBeforeYear guess then guess - 1
  else if daysBeforeYear (guess + 1) ≤ day then guess + 1
  else guess

/-- The month and the day of the month of a day of a year, which is counted from zero. -/
def monthOf (year : Int) (dayOfYear : Nat) : Nat × Nat :=
  let month := ((List.range 12).filter fun m => daysBeforeMonth year (m + 1) ≤ dayOfYear).length
  (month, dayOfYear - daysBeforeMonth year month + 1)

end InstallManifest.Time.Calendar
