import AlarmHistory.Lifecycle.Related
import AlarmHistory.NodeCache
/- What happens to an alarm, and the document patch that records it. A patch holds the snapshot
   fields that the transition overwrites and the log entries for the values they had before. All
   of its times are the clock's at the moment of recording, never those of events. -/
namespace AlarmHistory

inductive Transition where
  | created
  | reduced (before : Alarm)
  | acknowledged (user : Option String) (time : Option Int64)
  | unacknowledged (user : Option String) (time : Option Int64)
  | severityUpdated (previous : Option Severity)
  | archived (previousKey : String)
  | deleted
  | memoUpdated (kind : MemoKind) (body author : Option String) (updated : Option Int64)
  | memoDeleted (kind : MemoKind) (memo : Option Memo)
  | relatedUpdated (previous : List Alarm)
  deriving Repr

inductive Rejection where
  | emptyReductionKey (id : Int32)
  | lastBeforeFirst (id : Int32) (last first : Int64)
  deriving DecidableEq, Repr

def Rejection.message : Rejection → String
  | emptyReductionKey id =>
    "Translation error: alarm " ++ Decimal.intText id.toInt ++ " has an empty reduction key"
  | lastBeforeFirst id last first =>
    "Translation error: alarm " ++ Decimal.intText id.toInt ++ " last event time " ++
      Decimal.intText last.toInt ++ " precedes first event time " ++ Decimal.intText first.toInt

def Memo.summary (m : Memo) : MemoSummary := ⟨m.author, m.body, m.updated⟩

def Event.summary (e : Event) : EventSummary := ⟨e.id, e.uei, e.logMessage, e.description⟩

namespace Alarm

def rejection? (a : Alarm) : Option Rejection :=
  if a.reductionKey.isEmpty then some (.emptyReductionKey a.id)
  else if a.lastEventTime < a.firstEventTime then
    some (.lastBeforeFirst a.id a.lastEventTime a.firstEventTime)
  else none

def header (a : Alarm) (now : Int64) : Header :=
  ⟨a.id, a.reductionKey, a.firstEventTime, a.lastEventTime, now⟩

def relatedSummary (a : Alarm) : RelatedSummary where
  id := a.id
  reductionKey := a.reductionKey
  firstEventTime := some a.firstEventTime
  lastEventTime := some a.lastEventTime
  lastEvent := a.lastEvent.map Event.summary
  severityId := some a.severity.id
  severityLabel := some a.severity.label
  managedObjectType := a.managedObjectType
  managedObjectInstance := a.managedObjectInstance

def snapshot (a : Alarm) (node : Option NodeSummary) : Snapshot where
  alarmType := some a.alarmType
  logMessage := a.logMessage
  description := a.description
  operatorInstructions := a.operatorInstructions
  severityId := some a.severity.id
  severityLabel := some a.severity.label
  archived := some a.archived
  managedObjectType := a.managedObjectType
  managedObjectInstance := a.managedObjectInstance
  node := node
  stickyMemo := .ofOption (a.stickyMemo.map Memo.summary)
  journalMemo := .ofOption (a.journalMemo.map Memo.summary)
  ackUser := .ofOption a.ackUser
  ackTime := .ofOption a.ackTime
  situation := some a.situation
  relatedIds := some (a.related.map Alarm.id)
  relatedKeys := some (a.related.map Alarm.reductionKey)
  related := some (a.related.map relatedSummary)

def memo (a : Alarm) : MemoKind → Option Memo
  | .sticky => a.stickyMemo
  | .journal => a.journalMemo

end Alarm

def Snapshot.ofMemo (kind : MemoKind) (memo : Edit MemoSummary) : Snapshot :=
  match kind with
  | .sticky => { stickyMemo := memo }
  | .journal => { journalMemo := memo }

namespace Transition

open Lifecycle

/-- Transitions whose patch is the whole alarm. -/
def isFull : Transition → Bool
  | created | reduced _ | deleted | relatedUpdated _ => true
  | _ => false

/-- The snapshot fields that a transition overwrites; `node` counts in full ones only. -/
def snapshot (t : Transition) (a : Alarm) (node : Option NodeSummary) (now : Int64) : Snapshot :=
  match t with
  | created | reduced _ | relatedUpdated _ => a.snapshot node
  | deleted => { a.snapshot node with deletedTime := some now }
  | acknowledged _ _ | unacknowledged _ _ =>
    { ackUser := .ofOption a.ackUser, ackTime := .ofOption a.ackTime }
  | severityUpdated _ => ({} : Snapshot).withSeverity a.severity
  | archived _ => { archived := some a.archived, archivedTime := some now }
  | memoUpdated kind _ _ _ => .ofMemo kind (.ofOption ((a.memo kind).map Memo.summary))
  | memoDeleted kind _ => .ofMemo kind .clear

def reductionLogs (before a : Alarm) (now : Int64) : ChangeLogs where
  severity := if before.severity = a.severity then [] else [.ofPrevious now (some before.severity)]
  ack := if before.ackUser = a.ackUser ∧ before.ackTime = a.ackTime then []
    else [⟨now, before.ackUser, before.ackTime⟩]
  related := relatedChanges now before.related a.related

def logs (t : Transition) (a : Alarm) (now : Int64) : ChangeLogs :=
  match t with
  | created | deleted | archived _ => {}
  | reduced before => reductionLogs before a now
  | acknowledged user time | unacknowledged user time => { ack := [⟨now, user, time⟩] }
  | severityUpdated previous => { severity := [.ofPrevious now previous] }
  | memoUpdated kind body author updated => { memo := [⟨now, kind, body, author, updated, false⟩] }
  | memoDeleted kind memo =>
    { memo := [⟨now, kind, memo.bind Memo.body, memo.bind Memo.author, memo.bind Memo.updated,
        true⟩] }
  | relatedUpdated previous => { related := relatedChanges now previous a.related }

/-- The node summary of a full patch; other patches leave the cache alone. -/
def nodeFor (t : Transition) (a : Alarm) (cache : NodeCache) : Option NodeSummary × NodeCache :=
  match t.isFull, a.node with
  | true, some n => let (s, cache) := cache.summarise n; (some s, cache)
  | _, _ => (none, cache)

def patch (t : Transition) (a : Alarm) (now : Int64) (cache : NodeCache) :
    Except Rejection AlarmDocument × NodeCache :=
  match a.rejection? with
  | some r => (.error r, cache)
  | none =>
    let (node, cache) := t.nodeFor a cache
    (.ok ⟨a.header now, t.snapshot a node now, t.logs a now⟩, cache)

end Transition
end AlarmHistory
