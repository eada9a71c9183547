/- The proleptic Gregorian calendar in UTC. Days are counted from 1 January of year 0; every year
   from there on backwards and forwards follows the same rule of leap years. -/
namespace AlarmHistory.Calendar

def isLeap (year : Int) : Bool := year % 4 == 0 && (year % 100 != 0 || year % 400 == 0)

def daysBeforeYear (year : Int) : Int :=
  365 * year + (year + 3) / 4 - (year + 99) / 100 + (year + 399) / 400

/-- The year of a day. The mean year has 146097/400 days; the year found with it is right or one
   too early or too late. -/
def yearOfDay (day : Int) : Int :=
  let guess := day * 400 / 146097
  if day < daysBeforeYear guess then guess - 1
  else if daysBeforeYear (guess + 1) ≤ day then guess + 1
  else guess

def monthLengths (leap : Bool) : List Nat :=
  [31, if leap then 29 else 28, 31, 30, 31, 30, 31, 31, 30, 31, 30, 31]

def monthOfDay (month : Nat) (day : Nat) : List Nat → Nat × Nat
  | [] => (month, day + 1)
  | [_] => (month, day + 1)
  | n :: rest => if day < n then (month, day + 1) else monthOfDay (month + 1) (day - n) rest

structure Hour where
  year : Int
  month : Nat
  day : Nat
  hour : Nat
  deriving DecidableEq, Repr

def epochDay : Int := 719528

def msPerHour : Int := 3600000

def hourOf (ms : Int) : Hour :=
  let hours := ms / msPerHour
  let day := hours / 24 + epochDay
  let year := yearOfDay day
  let (month, dayOfMonth) :=
    monthOfDay 1 (day - daysBeforeYear year).toNat (monthLengths (isLeap year))
  ⟨year, month, dayOfMonth, (hours % 24).toNat⟩

def firstYear : Int := -262143

def lastYear : Int := 262142

/-- A time belongs to the calendar from the start of the first year to the end of the last. -/
def holds (ms : Int) : Bool :=
  let start (year : Int) := (daysBeforeYear year - epochDay) * 24 * msPerHour
  decide (start firstYear ≤ ms ∧ ms < start (lastYear + 1))

end AlarmHistory.Calendar
