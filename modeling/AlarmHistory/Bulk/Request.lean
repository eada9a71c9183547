import AlarmHistory.Bulk.Positions
import AlarmHistory.Document.Encoding
import AlarmHistory.Index.Name
/- Bulk requests. Every document becomes an action that merges its snapshot into the stored
   document. If it has log entries, a second action appends them there, so that patches of one
   alarm cannot overwrite each other's history. -/
namespace AlarmHistory.Bulk

inductive Work where
  | merge (doc : AlarmDocument)
  | append (logs : ChangeLogs)
  deriving DecidableEq, Repr

/-- One action. `owner` is the batch position of the document that it comes from. -/
structure Action where
  owner : Nat
  index : String
  id : Int32
  work : Work
  deriving DecidableEq, Repr

def logNames : List String :=
  [ChangeLogs.ackName, ChangeLogs.memoName, ChangeLogs.severityName, ChangeLogs.relatedName]

def appendScript : String :=
  "for (String f : ['" ++ String.intercalate "', '" logNames ++ "']) \x7b " ++
  "if (ctx._source[f] == null) \x7b ctx._source[f] = new ArrayList(); \x7d " ++
  "if (params[f] != null) \x7b ctx._source[f].addAll(params[f]); \x7d \x7d"

namespace Action

def targetJson (a : Action) : Json :=
  Json.sorted (.obj [("update", .obj [("_index", .str a.index),
    ("_id", .str (Decimal.intText a.id.toInt))])])

def workJson (a : Action) : Json :=
  match a.work with
  | .merge doc => .obj [("doc", doc.json), ("doc_as_upsert", .bool true)]
  | .append logs =>
    Json.sorted (.obj [("script", .obj [("lang", .str "painless"), ("source", .str appendScript),
      ("params", logs.json)])])

def lines (a : Action) : List String := [a.targetJson.text, a.workJson.text]

end Action

structure Target where
  indexPrefix : String
  granularity : Granularity
  deriving DecidableEq, Repr

def Target.indexOf (t : Target) (d : AlarmDocument) : String :=
  t.granularity.indexFor t.indexPrefix d.header.firstEventTime

def actionsOf (t : Target) (position : Nat) (d : AlarmDocument) : List Action :=
  let merge : Action := ⟨position, t.indexOf d, d.id, .merge d.withoutLogs⟩
  if d.logs.isEmpty then [merge] else [merge, ⟨position, t.indexOf d, d.id, .append d.logs⟩]

def actions (t : Target) (docs : List (Nat × AlarmDocument)) : List Action :=
  docs.flatMap fun (position, d) => actionsOf t position d

def owners (as : List Action) : List Nat := as.map Action.owner

def body (as : List Action) : String :=
  String.join ((as.flatMap Action.lines).map (· ++ "\n"))

/-- The index of every position; of documents at one position the last counts. -/
def indices (t : Target) (docs : List (Nat × AlarmDocument)) : Positions String :=
  docs.foldl (fun is (position, d) => Positions.set position (t.indexOf d) is) []

end AlarmHistory.Bulk
