import AlarmHistory.Decimal.Digits
import AlarmHistory.Index.Calendar
/- Names of the indices that alarm documents are kept in: one index for each calendar bucket. -/
namespace AlarmHistory

inductive Granularity where
  | yearly
  | monthly
  | daily
  | hourly
  deriving DecidableEq, Repr

namespace Granularity

open Calendar Decimal

def name : Granularity → String
  | yearly => "yearly"
  | monthly => "monthly"
  | daily => "daily"
  | hourly => "hourly"

def all : List Granularity := [yearly, monthly, daily, hourly]

def yearDigits (year : Int) : List Char :=
  if year < 0 then '-' :: padded 4 year.natAbs
  else if 9999 < year then '+' :: padded 4 year.natAbs
  else padded 4 year.natAbs

def bucketDigits (g : Granularity) (h : Hour) : List Char :=
  let month := '-' :: padded 2 h.month
  let day := '-' :: padded 2 h.day
  let hour := '-' :: padded 2 h.hour
  match g with
  | yearly => yearDigits h.year
  | monthly => yearDigits h.year ++ month
  | daily => yearDigits h.year ++ month ++ day
  | hourly => yearDigits h.year ++ month ++ day ++ hour

/-- The hour that names the index of a time; times outside the calendar count as the epoch. -/
def hourFor (time : Int64) : Hour :=
  if Calendar.holds time.toInt then hourOf time.toInt else hourOf 0

def indexFor (g : Granularity) (indexPrefix : String) (time : Int64) : String :=
  String.ofList (indexPrefix.toList ++ '-' :: g.bucketDigits (hourFor time))

end Granularity

def indexWildcard (indexPrefix : String) : String := indexPrefix ++ "-*"

end AlarmHistory
