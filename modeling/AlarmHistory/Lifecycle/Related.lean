import AlarmHistory.Alarm
import AlarmHistory.Document.Change
/- The difference between two lists of related alarms, told by alarm id. Additions come first;
   each group is in ascending order of ids. -/
namespace AlarmHistory.Lifecycle

structure Entry where
  id : Int32
  key : String
  deriving DecidableEq, Repr

def enter (e : Entry) : List Entry → List Entry
  | [] => [e]
  | f :: rest =>
    if e.id < f.id then e :: f :: rest
    else if e.id = f.id then e :: rest
    else f :: enter e rest

/-- Every id of a list once, with the key of its last occurrence. -/
def roster (alarms : List Alarm) : List Entry :=
  alarms.foldl (fun es a => enter ⟨a.id, a.reductionKey⟩ es) []

def without (es others : List Entry) : List Entry :=
  es.filter fun e => !(others.any fun o => o.id == e.id)

def relatedChanges (now : Int64) (previous current : List Alarm) : List RelatedChange :=
  let before := roster previous
  let after := roster current
  (without after before).map (fun e => .added now e.id e.key) ++
    (without before after).map fun e => .removed now e.id e.key

end AlarmHistory.Lifecycle
