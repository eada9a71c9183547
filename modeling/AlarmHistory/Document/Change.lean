import AlarmHistory.Severity
/- Entries of the four change logs. An entry stamped `t` records the value that was in effect just
   before `t`. -/
namespace AlarmHistory

class Stamped (α : Type) where
  time : α → Int64

structure SeverityChange where
  time : Int64
  severityId : Option Int32
  severityLabel : Option String
  deriving DecidableEq, Repr

structure AckChange where
  time : Int64
  ackUser : Option String
  ackTime : Option Int64
  deriving DecidableEq, Repr

inductive MemoKind where
  | sticky
  | journal
  deriving DecidableEq, Repr

structure MemoChange where
  time : Int64
  kind : MemoKind
  body : Option String
  author : Option String
  updateTime : Option Int64
  deleted : Bool
  deriving DecidableEq, Repr

/-- One related alarm came or went. Entries written here have exactly one of the two flags. -/
structure RelatedChange where
  time : Int64
  id : Int32
  reductionKey : String
  addition : Bool
  removal : Bool
  deriving DecidableEq, Repr

instance : Stamped SeverityChange := ⟨SeverityChange.time⟩
instance : Stamped AckChange := ⟨AckChange.time⟩
instance : Stamped MemoChange := ⟨MemoChange.time⟩
instance : Stamped RelatedChange := ⟨RelatedChange.time⟩

namespace SeverityChange

def ofPrevious (time : Int64) (previous : Option Severity) : SeverityChange where
  time := time
  severityId := previous.map Severity.id
  severityLabel := previous.map Severity.label

def severity (c : SeverityChange) : Option Severity := c.severityId.bind Severity.ofId?

end SeverityChange

namespace RelatedChange

def added (time : Int64) (id : Int32) (key : String) : RelatedChange :=
  ⟨time, id, key, true, false⟩

def removed (time : Int64) (id : Int32) (key : String) : RelatedChange :=
  ⟨time, id, key, false, true⟩

end RelatedChange

structure ChangeLogs where
  severity : List SeverityChange := []
  ack : List AckChange := []
  memo : List MemoChange := []
  related : List RelatedChange := []
  deriving DecidableEq, Repr

namespace ChangeLogs

def size (c : ChangeLogs) : Nat :=
  c.ack.length + c.memo.length + c.severity.length + c.related.length

def isEmpty (c : ChangeLogs) : Bool :=
  c.ack.isEmpty && c.memo.isEmpty && c.severity.isEmpty && c.related.isEmpty

/-- Entries of a later patch come after the stored ones. -/
def append (c d : ChangeLogs) : ChangeLogs where
  severity := c.severity ++ d.severity
  ack := c.ack ++ d.ack
  memo := c.memo ++ d.memo
  related := c.related ++ d.related

instance : Append ChangeLogs := ⟨append⟩

end ChangeLogs
end AlarmHistory
