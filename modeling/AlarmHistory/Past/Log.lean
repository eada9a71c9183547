import AlarmHistory.Document.Change
/- Looking back through a change log. The value at a time is in the earliest entry strictly after
   it; logs need not be in order, and of entries with one time the first in the log counts. -/
namespace AlarmHistory.Past

def earlier [Stamped α] (best : Option α) (c : α) : Option α :=
  match best with
  | none => some c
  | some b => if Stamped.time b ≤ Stamped.time c then some b else some c

def firstAfter [Stamped α] (log : List α) (time : Int64) : Option α :=
  (log.filter fun c => time < Stamped.time c).foldl earlier none

end AlarmHistory.Past
