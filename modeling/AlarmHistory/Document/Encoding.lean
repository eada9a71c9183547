import AlarmHistory.Document.Basic
import AlarmHistory.Json.Record
/- Documents as JSON, in both directions. Members are written in the order of the fields here.
   In a snapshot a field that is not set is left out, and a cleared one is written as null. -/
namespace AlarmHistory

open Json Json.Decoder

def int32Json (i : Int32) : Json := .int i.toInt

def int64Json (i : Int64) : Json := .int i.toInt

namespace Edit

def member (k : String) (f : α → Json) : Edit α → List (String × Json)
  | keep => []
  | clear => [(k, .null)]
  | put a => [(k, f a)]

/-- A member that is there edits the field, with null to clear it. -/
def decoder (dec : Decoder α) : Decoder (Edit α) := fun r => (Decoder.nullable dec r).map ofOption

end Edit

namespace SeverityChange

def json (c : SeverityChange) : Json :=
  .obj (("time", int64Json c.time) :: (member? "severity-id" int32Json c.severityId ++
    member? "severity-label" .str c.severityLabel))

def decoder : Decoder SeverityChange :=
  Record.pure SeverityChange.mk
    |>.required "time" int64
    |>.optional "severity-id" int32
    |>.optional "severity-label" string
    |>.decoder

end SeverityChange

namespace AckChange

def json (c : AckChange) : Json :=
  .obj [("time", int64Json c.time), ("ack-user", optional .str c.ackUser),
    ("ack-time", optional int64Json c.ackTime)]

def decoder : Decoder AckChange :=
  Record.pure AckChange.mk
    |>.required "time" int64
    |>.optional "ack-user" string
    |>.optional "ack-time" int64
    |>.decoder

end AckChange

namespace MemoKind

def name : MemoKind → String
  | sticky => "sticky"
  | journal => "journal"

def decoder : Decoder MemoKind := oneOf ([sticky, journal].map fun k => (k.name, k))

end MemoKind

namespace MemoChange

def json (c : MemoChange) : Json :=
  .obj ([("time", int64Json c.time), ("type", .str c.kind.name), ("body", optional .str c.body),
    ("author", optional .str c.author), ("update-time", optional int64Json c.updateTime)] ++
    if c.deleted then [("deleted", .bool true)] else [])

def decoder : Decoder MemoChange :=
  Record.pure MemoChange.mk
    |>.required "time" int64
    |>.required "type" MemoKind.decoder
    |>.optional "body" string
    |>.optional "author" string
    |>.optional "update-time" int64
    |>.defaulted "deleted" bool false
    |>.decoder

end MemoChange

namespace RelatedChange

def json (c : RelatedChange) : Json :=
  .obj [("time", int64Json c.time), ("id", int32Json c.id), ("reduction-key", .str c.reductionKey),
    ("addition", .bool c.addition), ("removal", .bool c.removal)]

def decoder : Decoder RelatedChange :=
  Record.pure RelatedChange.mk
    |>.required "time" int64
    |>.required "id" int32
    |>.required "reduction-key" string
    |>.defaulted "addition" bool false
    |>.defaulted "removal" bool false
    |>.decoder

end RelatedChange

namespace NodeSummary

def json (n : NodeSummary) : Json :=
  .obj [("id", int32Json n.id), ("label", .str n.label),
    ("foreign-source", optional .str n.foreignSource), ("foreign-id", optional .str n.foreignId),
    ("categories", strings n.categories)]

def decoder : Decoder NodeSummary :=
  Record.pure NodeSummary.mk
    |>.required "id" int32
    |>.required "label" string
    |>.optional "foreign-source" string
    |>.optional "foreign-id" string
    |>.defaulted "categories" (list string) []
    |>.decoder

end NodeSummary

namespace MemoSummary

def json (m : MemoSummary) : Json :=
  .obj [("author", optional .str m.author), ("body", optional .str m.body),
    ("update-time", optional int64Json m.updateTime)]

def decoder : Decoder MemoSummary :=
  Record.pure MemoSummary.mk
    |>.optional "author" string
    |>.optional "body" string
    |>.optional "update-time" int64
    |>.decoder

end MemoSummary

namespace EventSummary

def json (e : EventSummary) : Json :=
  .obj [("id", int32Json e.id), ("uei", .str e.uei), ("log-message", optional .str e.logMessage),
    ("description", optional .str e.description)]

def decoder : Decoder EventSummary :=
  Record.pure EventSummary.mk
    |>.required "id" int32
    |>.required "uei" string
    |>.optional "log-message" string
    |>.optional "description" string
    |>.decoder

end EventSummary

namespace RelatedSummary

def json (r : RelatedSummary) : Json :=
  .obj ([("id", int32Json r.id), ("reduction-key", .str r.reductionKey),
    ("first-event-time", optional int64Json r.firstEventTime),
    ("last-event-time", optional int64Json r.lastEventTime)] ++
    (member? "last-event" EventSummary.json r.lastEvent ++
    [("severity-id", optional int32Json r.severityId),
    ("severity-label", optional .str r.severityLabel),
    ("managed-object-type", optional .str r.managedObjectType),
    ("managed-object-instance", optional .str r.managedObjectInstance)]))

def decoder : Decoder RelatedSummary :=
  Record.pure RelatedSummary.mk
    |>.required "id" int32
    |>.required "reduction-key" string
    |>.optional "first-event-time" int64
    |>.optional "last-event-time" int64
    |>.optional "last-event" EventSummary.decoder
    |>.optional "severity-id" int32
    |>.optional "severity-label" string
    |>.optional "managed-object-type" string
    |>.optional "managed-object-instance" string
    |>.decoder

end RelatedSummary

namespace ChangeLogs

def severityName : String := "severity-state-changes"

def ackName : String := "ack-state-changes"

def memoName : String := "memo-state-changes"

def relatedName : String := "related-alarm-state-changes"

def severityJson (c : ChangeLogs) : Json := .arr (c.severity.map SeverityChange.json)

def ackJson (c : ChangeLogs) : Json := .arr (c.ack.map AckChange.json)

def memoJson (c : ChangeLogs) : Json := .arr (c.memo.map MemoChange.json)

def relatedJson (c : ChangeLogs) : Json := .arr (c.related.map RelatedChange.json)

/-- All four logs, empty ones included. -/
def json (c : ChangeLogs) : Json :=
  .obj [(ackName, c.ackJson), (memoName, c.memoJson), (severityName, c.severityJson),
    (relatedName, c.relatedJson)]

/-- Only the logs that have entries. -/
def members (c : ChangeLogs) : List (String × Json) :=
  (if c.severity.isEmpty then [] else [(severityName, c.severityJson)]) ++
  (if c.ack.isEmpty then [] else [(ackName, c.ackJson)]) ++
  (if c.memo.isEmpty then [] else [(memoName, c.memoJson)]) ++
  (if c.related.isEmpty then [] else [(relatedName, c.relatedJson)])

def record : Record ChangeLogs :=
  Record.pure ChangeLogs.mk
    |>.defaulted severityName (list SeverityChange.decoder) []
    |>.defaulted ackName (list AckChange.decoder) []
    |>.defaulted memoName (list MemoChange.decoder) []
    |>.defaulted relatedName (list RelatedChange.decoder) []

end ChangeLogs

namespace Header

def members (h : Header) : List (String × Json) :=
  [("id", int32Json h.id), ("reduction-key", .str h.reductionKey),
    ("first-event-time", int64Json h.firstEventTime),
    ("last-event-time", int64Json h.lastEventTime), ("update-time", int64Json h.updateTime)]

def record : Record Header :=
  Record.pure Header.mk
    |>.required "id" int32
    |>.required "reduction-key" string
    |>.required "first-event-time" int64
    |>.required "last-event-time" int64
    |>.required "update-time" int64

end Header

namespace Snapshot

def members (s : Snapshot) : List (String × Json) :=
  member? "type" int32Json s.alarmType ++
  member? "log-message" .str s.logMessage ++
  member? "description" .str s.description ++
  member? "operator-instructions" .str s.operatorInstructions ++
  member? "severity-id" int32Json s.severityId ++
  member? "severity-label" .str s.severityLabel ++
  member? "archived" .bool s.archived ++
  member? "managed-object-type" .str s.managedObjectType ++
  member? "managed-object-instance" .str s.managedObjectInstance ++
  member? "node" NodeSummary.json s.node ++
  s.stickyMemo.member "sticky-memo" MemoSummary.json ++
  s.journalMemo.member "journal-memo" MemoSummary.json ++
  s.ackUser.member "ack-user" .str ++
  s.ackTime.member "ack-time" int64Json ++
  member? "situation" .bool s.situation ++
  member? "related-alarm-ids" (fun is => .arr (is.map int32Json)) s.relatedIds ++
  member? "related-alarm-reduction-keys" strings s.relatedKeys ++
  member? "related-alarms" (fun rs => .arr (rs.map RelatedSummary.json)) s.related ++
  member? "archived-time" int64Json s.archivedTime ++
  member? "deleted-time" int64Json s.deletedTime

def record : Record Snapshot :=
  Record.pure Snapshot.mk
    |>.optional "type" int32
    |>.optional "log-message" string
    |>.optional "description" string
    |>.optional "operator-instructions" string
    |>.optional "severity-id" int32
    |>.optional "severity-label" string
    |>.optional "archived" bool
    |>.optional "managed-object-type" string
    |>.optional "managed-object-instance" string
    |>.optional "node" NodeSummary.decoder
    |>.defaulted "sticky-memo" (Edit.decoder MemoSummary.decoder) .keep
    |>.defaulted "journal-memo" (Edit.decoder MemoSummary.decoder) .keep
    |>.defaulted "ack-user" (Edit.decoder string) .keep
    |>.defaulted "ack-time" (Edit.decoder int64) .keep
    |>.optional "situation" bool
    |>.optional "related-alarm-ids" (list int32)
    |>.optional "related-alarm-reduction-keys" (list string)
    |>.optional "related-alarms" (list RelatedSummary.decoder)
    |>.optional "archived-time" int64
    |>.optional "deleted-time" int64

end Snapshot

namespace AlarmDocument

def json (d : AlarmDocument) : Json :=
  .obj (d.header.members ++ (d.snapshot.members ++ d.logs.members))

def record : Record AlarmDocument :=
  (Header.record.both (Snapshot.record.both ChangeLogs.record)).map
    fun (header, snapshot, logs) => ⟨header, snapshot, logs⟩

def decoder : Decoder AlarmDocument := record.decoder

def ofText (t : String) : Except ReadError AlarmDocument := decodeText decoder t

def ofJson (v : Json) : Except ReadError AlarmDocument := decode decoder v

end AlarmDocument
end AlarmHistory
