import AlarmHistory.Document.Encoding
import AlarmHistory.Index.Name
/- The index template of a family of indices. Logs are nested, so that the fields of one entry stay
   together; all times are milliseconds since the epoch. -/
namespace AlarmHistory.Store

def dateField : Json := .obj [("type", .str "date"), ("format", .str "epoch_millis")]

def fieldOf (type : String) : Json := .obj [("type", .str type)]

def logField (members : List (String × Json)) : Json :=
  .obj [("type", .str "nested"), ("properties", .obj members)]

def templateFields : List (String × Json) :=
  [("id", fieldOf "integer"), ("reduction-key", fieldOf "keyword"), ("type", fieldOf "integer"),
    ("first-event-time", dateField), ("last-event-time", dateField), ("update-time", dateField),
    ("archived-time", dateField), ("deleted-time", dateField), ("ack-time", dateField),
    ("ack-user", fieldOf "keyword"), ("severity-id", fieldOf "integer"),
    ("severity-label", fieldOf "keyword"), ("situation", fieldOf "boolean"),
    ("related-alarm-ids", fieldOf "integer"),
    ("related-alarm-reduction-keys", fieldOf "keyword"),
    (ChangeLogs.ackName,
      logField [("time", dateField), ("ack-user", fieldOf "keyword"), ("ack-time", dateField)]),
    (ChangeLogs.memoName,
      logField [("time", dateField), ("type", fieldOf "keyword"), ("update-time", dateField)]),
    (ChangeLogs.severityName,
      logField [("time", dateField), ("severity-id", fieldOf "integer"),
        ("severity-label", fieldOf "keyword")]),
    (ChangeLogs.relatedName,
      logField [("time", dateField), ("id", fieldOf "integer"),
        ("reduction-key", fieldOf "keyword")])]

def templateJson (indexPrefix : String) : Json :=
  Json.sorted (.obj [("index_patterns", .arr [.str (indexWildcard indexPrefix)]),
    ("template", .obj [("mappings", .obj [("properties", .obj templateFields)])])])

end AlarmHistory.Store
