import AlarmHistory.Json.Record
import AlarmHistory.Severity
/- Live alarms as the alarm engine hands them over. Times are milliseconds since the epoch. -/
namespace AlarmHistory

structure Node where
  id : Int32
  label : String
  foreignSource : Option String
  foreignId : Option String
  categories : List String
  deriving DecidableEq, Repr

structure Memo where
  body : Option String
  author : Option String
  updated : Option Int64
  deriving DecidableEq, Repr

structure Event where
  id : Int32
  uei : String
  logMessage : Option String
  description : Option String
  deriving DecidableEq, Repr

structure Alarm where
  id : Int32
  reductionKey : String
  alarmType : Int32
  firstEventTime : Int64
  lastEventTime : Int64
  lastEvent : Option Event
  logMessage : Option String
  description : Option String
  operatorInstructions : Option String
  severity : Severity
  archived : Bool
  managedObjectType : Option String
  managedObjectInstance : Option String
  node : Option Node
  stickyMemo : Option Memo
  journalMemo : Option Memo
  ackUser : Option String
  ackTime : Option Int64
  situation : Bool
  related : List Alarm
  deriving Repr

open Json Json.Decoder

namespace Severity

def decoder : Decoder Severity := oneOf (all.map fun s => (s.label, s))

end Severity

namespace Node

def decoder : Decoder Node :=
  Record.pure Node.mk
    |>.required "id" int32
    |>.required "label" string
    |>.nullable "foreign_source" string
    |>.nullable "foreign_id" string
    |>.required "categories" (list string)
    |>.decoder

end Node

namespace Memo

def decoder : Decoder Memo :=
  Record.pure Memo.mk
    |>.nullable "body" string
    |>.nullable "author" string
    |>.nullable "updated" int64
    |>.decoder

end Memo

namespace Event

def decoder : Decoder Event :=
  Record.pure Event.mk
    |>.required "id" int32
    |>.required "uei" string
    |>.nullable "log_message" string
    |>.nullable "description" string
    |>.decoder

end Event

namespace Alarm

/-- A problem with nothing but its identity; the first event is also the last. -/
def ofIdentity (id : Int32) (key : String) (firstEventTime : Int64) : Alarm where
  id := id
  reductionKey := key
  alarmType := 1
  firstEventTime := firstEventTime
  lastEventTime := firstEventTime
  lastEvent := none
  logMessage := none
  description := none
  operatorInstructions := none
  severity := .indeterminate
  archived := false
  managedObjectType := none
  managedObjectInstance := none
  node := none
  stickyMemo := none
  journalMemo := none
  ackUser := none
  ackTime := none
  situation := false
  related := []

def nodeId (a : Alarm) : Option Int32 := a.node.map Node.id

def record (related : Decoder Alarm) : Record Alarm :=
  Record.pure Alarm.mk
    |>.required "id" int32
    |>.required "reduction_key" string
    |>.required "alarm_type" int32
    |>.required "first_event_time" int64
    |>.required "last_event_time" int64
    |>.nullable "last_event" Event.decoder
    |>.nullable "log_message" string
    |>.nullable "description" string
    |>.nullable "operator_instructions" string
    |>.required "severity" Severity.decoder
    |>.required "archived" bool
    |>.nullable "managed_object_type" string
    |>.nullable "managed_object_instance" string
    |>.nullable "node" Node.decoder
    |>.nullable "sticky_memo" Memo.decoder
    |>.nullable "journal_memo" Memo.decoder
    |>.nullable "ack_user" string
    |>.nullable "ack_time" int64
    |>.required "situation" bool
    |>.last "related_alarms" (list related)

/-- Related alarms may have related alarms of their own, to any depth that the text has. -/
def decoderTo : Nat → Decoder Alarm
  | 0 => fun r => .error r.refuse
  | depth + 1 => (record (decoderTo depth)).decoder

def decoder : Decoder Alarm := fun r => decoderTo r.depth r

end Alarm
end AlarmHistory
