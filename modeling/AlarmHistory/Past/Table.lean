import AlarmHistory.Past.View
/- A set of archived alarms, asked which of them existed at a past time. -/
namespace AlarmHistory

structure AlarmTable where
  alarms : List AlarmDocument
  deriving DecidableEq, Repr

structure NoAlarmAtTime where
  kind : String
  time : Int64
  deriving DecidableEq, Repr

def NoAlarmAtTime.message (e : NoAlarmAtTime) : String :=
  "No " ++ e.kind ++ " alarms at time: " ++ Decimal.intText e.time.toInt

/-- Created at or before the time, and not deleted by then. -/
def AlarmDocument.existsAt (d : AlarmDocument) (time : Int64) : Bool :=
  decide (d.header.firstEventTime ≤ time) &&
    match d.snapshot.deletedTime with
    | none => true
    | some deleted => decide (time < deleted)

namespace AlarmTable

/-- The alarms that existed, oldest first; of one age in the order of the table. -/
def alarmsAt (t : AlarmTable) (time : Int64) : List AlarmDocument :=
  (t.alarms.filter (·.existsAt time)).mergeSort
    fun a b => decide (a.header.firstEventTime ≤ b.header.firstEventTime)

def situationsAt (t : AlarmTable) (time : Int64) : List AlarmDocument :=
  (t.alarmsAt time).filter AlarmDocument.isSituation

def situationAt (t : AlarmTable) (time : Int64) : Option AlarmView :=
  (t.situationsAt time).head?.map fun d => ⟨d, time⟩

def firstOfType (t : AlarmTable) (time : Int64) (wanted : Int32) (kind : String) :
    Except NoAlarmAtTime AlarmView :=
  match (t.alarmsAt time).find? fun d => d.snapshot.alarmType == some wanted with
  | some d => .ok ⟨d, time⟩
  | none => .error ⟨kind, time⟩

def problemAt (t : AlarmTable) (time : Int64) : Except NoAlarmAtTime AlarmView :=
  t.firstOfType time problemType "problem"

def resolutionAt (t : AlarmTable) (time : Int64) : Except NoAlarmAtTime AlarmView :=
  t.firstOfType time resolutionType "resolution"

end AlarmTable
end AlarmHistory
