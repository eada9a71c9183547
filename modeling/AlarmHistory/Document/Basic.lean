import AlarmHistory.Document.Change
/- Alarm documents. A document has three parts: the identity and times that every one carries, a
   snapshot of which each field may be left out, and the change logs.

   The same type serves as a stored document and as a patch of one. Merging a patch replaces the
   snapshot fields that it sets and appends its log entries. -/
namespace AlarmHistory

/-- What a patch does to a field that can be emptied. -/
inductive Edit (α : Type) where
  | keep
  | clear
  | put (a : α)
  deriving DecidableEq, Repr

namespace Edit

def ofOption : Option α → Edit α
  | none => clear
  | some a => put a

def value? : Edit α → Option α
  | put a => some a
  | _ => none

/-- The later of two edits, unless it keeps what is there. -/
def merge (stored patch : Edit α) : Edit α :=
  match patch with
  | keep => stored
  | e => e

end Edit

structure NodeSummary where
  id : Int32
  label : String
  foreignSource : Option String
  foreignId : Option String
  categories : List String
  deriving DecidableEq, Repr

structure MemoSummary where
  author : Option String
  body : Option String
  updateTime : Option Int64
  deriving DecidableEq, Repr

structure EventSummary where
  id : Int32
  uei : String
  logMessage : Option String
  description : Option String
  deriving DecidableEq, Repr

structure RelatedSummary where
  id : Int32
  reductionKey : String
  firstEventTime : Option Int64
  lastEventTime : Option Int64
  lastEvent : Option EventSummary
  severityId : Option Int32
  severityLabel : Option String
  managedObjectType : Option String
  managedObjectInstance : Option String
  deriving DecidableEq, Repr

def problemType : Int32 := 1

def resolutionType : Int32 := 2

structure Header where
  id : Int32
  reductionKey : String
  firstEventTime : Int64
  lastEventTime : Int64
  updateTime : Int64
  deriving DecidableEq, Repr

structure Snapshot where
  alarmType : Option Int32 := none
  logMessage : Option String := none
  description : Option String := none
  operatorInstructions : Option String := none
  severityId : Option Int32 := none
  severityLabel : Option String := none
  archived : Option Bool := none
  managedObjectType : Option String := none
  managedObjectInstance : Option String := none
  node : Option NodeSummary := none
  stickyMemo : Edit MemoSummary := .keep
  journalMemo : Edit MemoSummary := .keep
  ackUser : Edit String := .keep
  ackTime : Edit Int64 := .keep
  situation : Option Bool := none
  relatedIds : Option (List Int32) := none
  relatedKeys : Option (List String) := none
  related : Option (List RelatedSummary) := none
  archivedTime : Option Int64 := none
  deletedTime : Option Int64 := none
  deriving DecidableEq, Repr

structure AlarmDocument where
  header : Header
  snapshot : Snapshot := {}
  logs : ChangeLogs := {}
  deriving DecidableEq, Repr

namespace Snapshot

def severity (s : Snapshot) : Option Severity := s.severityId.bind Severity.ofId?

def withSeverity (s : Snapshot) (v : Severity) : Snapshot :=
  { s with severityId := some v.id, severityLabel := some v.label }

/-- Reduction keys of the related alarms, those of the summaries first. -/
def currentRelatedKeys (s : Snapshot) : List String :=
  (s.related.getD []).map RelatedSummary.reductionKey ++ s.relatedKeys.getD []

def merge (stored patch : Snapshot) : Snapshot where
  alarmType := patch.alarmType.or stored.alarmType
  logMessage := patch.logMessage.or stored.logMessage
  description := patch.description.or stored.description
  operatorInstructions := patch.operatorInstructions.or stored.operatorInstructions
  severityId := patch.severityId.or stored.severityId
  severityLabel := patch.severityLabel.or stored.severityLabel
  archived := patch.archived.or stored.archived
  managedObjectType := patch.managedObjectType.or stored.managedObjectType
  managedObjectInstance := patch.managedObjectInstance.or stored.managedObjectInstance
  node := patch.node.or stored.node
  stickyMemo := stored.stickyMemo.merge patch.stickyMemo
  journalMemo := stored.journalMemo.merge patch.journalMemo
  ackUser := stored.ackUser.merge patch.ackUser
  ackTime := stored.ackTime.merge patch.ackTime
  situation := patch.situation.or stored.situation
  relatedIds := patch.relatedIds.or stored.relatedIds
  relatedKeys := patch.relatedKeys.or stored.relatedKeys
  related := patch.related.or stored.related
  archivedTime := patch.archivedTime.or stored.archivedTime
  deletedTime := patch.deletedTime.or stored.deletedTime

end Snapshot

namespace AlarmDocument

def ofIdentity (id : Int32) (key : String) (firstEventTime : Int64) : AlarmDocument where
  header := ⟨id, key, firstEventTime, firstEventTime, 0⟩

def id (d : AlarmDocument) : Int32 := d.header.id

def severity (d : AlarmDocument) : Option Severity := d.snapshot.severity

def ackUser (d : AlarmDocument) : Option String := d.snapshot.ackUser.value?

def ackTime (d : AlarmDocument) : Option Int64 := d.snapshot.ackTime.value?

def isSituation (d : AlarmDocument) : Bool := d.snapshot.situation.getD false

def withoutLogs (d : AlarmDocument) : AlarmDocument := { d with logs := {} }

def merge (stored patch : AlarmDocument) : AlarmDocument where
  header := patch.header
  snapshot := stored.snapshot.merge patch.snapshot
  logs := stored.logs ++ patch.logs

end AlarmDocument
end AlarmHistory
