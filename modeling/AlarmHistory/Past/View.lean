import AlarmHistory.Decimal.Digits
import AlarmHistory.Document.Basic
import AlarmHistory.Past.Log
/- One archived alarm as it was at a past time. Each value comes from the first log entry after
   that time, or from the snapshot when there is none. -/
namespace AlarmHistory

structure AlarmView where
  alarm : AlarmDocument
  time : Int64
  deriving DecidableEq, Repr

namespace AlarmView

open Past

def severity (v : AlarmView) : Option Severity :=
  match firstAfter v.alarm.logs.severity v.time with
  | some c => c.severity
  | none => v.alarm.severity

def ackUser (v : AlarmView) : Option String :=
  match firstAfter v.alarm.logs.ack v.time with
  | some c => c.ackUser
  | none => v.alarm.ackUser

def ackTime (v : AlarmView) : Option Int64 :=
  match firstAfter v.alarm.logs.ack v.time with
  | some c => c.ackTime
  | none => v.alarm.ackTime

/-- Was the alarm with this key related? An entry after the time tells it by being a removal. -/
def isRelated (v : AlarmView) (key : String) : Bool :=
  match firstAfter (v.alarm.logs.related.filter fun c => c.reductionKey == key) v.time with
  | some c => c.removal
  | none => v.alarm.snapshot.currentRelatedKeys.contains key

def insertKey (key : String) : List String → List String
  | [] => [key]
  | k :: rest =>
    if key < k then key :: k :: rest
    else if key = k then k :: rest
    else k :: insertKey key rest

def mentionedKeys (v : AlarmView) : List String :=
  (v.alarm.snapshot.currentRelatedKeys ++ v.alarm.logs.related.map RelatedChange.reductionKey).foldr
    insertKey []

def relatedKeys (v : AlarmView) : List String := v.mentionedKeys.filter v.isRelated

def text (v : AlarmView) : String :=
  "AlarmDocumentView[t=" ++ Decimal.intText v.time.toInt ++
  ", severity=" ++ (v.severity.map Severity.label).getD "null" ++
  ", ackTime=" ++ (v.ackTime.map fun t => Decimal.intText t.toInt).getD "null" ++
  ", ackUser=" ++ v.ackUser.getD "null" ++ "]"

end AlarmView
end AlarmHistory
