/- Alarm severities, from least to most severe, with their numeric ids and labels. -/
namespace AlarmHistory

inductive Severity where
  | indeterminate
  | cleared
  | normal
  | warning
  | minor
  | major
  | critical
  deriving DecidableEq, Repr

namespace Severity

def all : List Severity :=
  [indeterminate, cleared, normal, warning, minor, major, critical]

def id : Severity → Int32
  | indeterminate => 1
  | cleared => 2
  | normal => 3
  | warning => 4
  | minor => 5
  | major => 6
  | critical => 7

def label : Severity → String
  | indeterminate => "INDETERMINATE"
  | cleared => "CLEARED"
  | normal => "NORMAL"
  | warning => "WARNING"
  | minor => "MINOR"
  | major => "MAJOR"
  | critical => "CRITICAL"

/-- Ids outside the known range name no severity. -/
def ofId? (n : Int32) : Option Severity := all.find? fun s => s.id == n

def ofId (n : Int32) : Severity := (ofId? n).getD indeterminate

end Severity
end AlarmHistory
