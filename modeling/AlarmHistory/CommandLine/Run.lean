import AlarmHistory.CommandLine.Files
import AlarmHistory.CommandLine.Help
import AlarmHistory.Config.File
import AlarmHistory.Store.Client
/- What the commands do, given a way to read files and a link to the store. -/
namespace AlarmHistory.CommandLine

open Store

/-- What a command leaves behind: its exit code, what it printed, and what went wrong, from the
   outermost message to its cause. -/
structure Outcome where
  exit : UInt8 := 0
  output : String := ""
  trouble : List String := []
  deriving DecidableEq, Repr

namespace Outcome

def failure (trouble : List String) : Outcome := { exit := 1, trouble }

def misuse : Outcome := { exit := 2, trouble := ["wrong usage"] }

/-- What is written about the trouble: the message, and its causes with numbers if there are
   several. -/
def complaint (o : Outcome) : String :=
  match o.trouble with
  | [] => ""
  | [message] => "Error: " ++ message ++ "\n"
  | [message, cause] => "Error: " ++ message ++ "\n\nCaused by:\n    " ++ cause ++ "\n"
  | message :: causes =>
    "Error: " ++ message ++ "\n\nCaused by:\n" ++
      lines (causes.zipIdx.map fun (cause, i) => "    " ++ toString i ++ ": " ++ cause)

end Outcome

def loadConfig [Monad m] (readFile : String → m (Except FileFault String)) :
    Option String → m (Except (List String) Config)
  | none => return .ok {}
  | some path => do
    let loading := "loading config " ++ path
    match ← readFile path with
    | .error fault =>
      return .error
        [loading, "Configuration error: Failed to read " ++ path ++ ": " ++ fault.message]
    | .ok text =>
      match Config.ofYaml text with
      | .ok c => return .ok c
      | .error .yaml => return .error [loading, "YAML error"]
      | .error (.fault f) => return .error [loading, f.message]

def checkConfig (c : Config) : Outcome where
  output := lines ["Configuration OK",
    "  store:    " ++ c.storeUrl,
    "  indices:  " ++ indexWildcard c.indexPrefix,
    "  batching: " ++ toString c.batchSize ++ " docs / " ++ toString c.maxFillWaitMs ++ " ms",
    "  queue:    " ++ toString c.queueCapacity]

def unwrittenLine (u : Bulk.Unwritten) : String :=
  "FAILED id=" ++ Decimal.intText u.id.toInt ++ " reduction-key=" ++ u.reductionKey ++
    " index=" ++ u.index ++ " status=" ++ (u.failure.status.map Decimal.natText).getD "-" ++
    " reason=" ++ u.failure.reason

def reportLines (r : Bulk.Report) : List String :=
  r.unwritten.map unwrittenLine ++
    ["Indexed " ++ Decimal.natText (r.total - r.unwritten.length) ++ " of " ++
      Decimal.natText r.total ++ " documents"]

def reindex [Monad m] (readFile : String → m (Except FileFault String)) (link : Link m)
    (c : Config) (path : String) : m Outcome := do
  match ← readFile path with
  | .error fault => return .failure ["reading " ++ path, fault.message]
  | .ok text =>
    match Json.decodeText (Json.Decoder.list AlarmDocument.decoder) text with
    | .error _ => return .failure ["parsing " ++ path, "not a list of documents"]
    | .ok docs =>
      match ← (Client.ofConfig c).upload link docs with
      | (.ok (), _) =>
        return { output := lines ["Indexed " ++ Decimal.natText docs.length ++ " documents"] }
      | (.error report, _) =>
        return { Outcome.failure [report.message] with output := lines (reportLines report) }

def alarmLine (d : AlarmDocument) (time : Int64) : String :=
  let v : AlarmView := ⟨d, time⟩
  "  #" ++ Decimal.intText d.id.toInt ++ " " ++ d.header.reductionKey ++
    " severity=" ++ (v.severity.map Severity.label).getD "-" ++
    " ack=" ++ v.ackUser.getD "-" ++
    " related=[" ++ String.intercalate ", " v.relatedKeys ++ "]"

def tableLines (t : AlarmTable) (time : Int64) : List String :=
  let alarms := t.alarmsAt time
  (Decimal.natText alarms.length ++ " alarms at " ++ Decimal.intText time.toInt) ::
    (alarms.map (alarmLine · time) ++
      [match t.situationAt time with
        | some v => "First situation: " ++ v.alarm.header.reductionKey
        | none => "No situations",
      match t.problemAt time with
        | .ok v => "First problem: " ++ v.text
        | .error e => e.message])

def view [Monad m] (link : Link m) (c : Config) (time : Int64) : m Outcome := do
  match ← (Client.ofConfig c).table link with
  | .error e => return .failure [e.message]
  | .ok t => return { output := lines (tableLines t time) }

def run [Monad m] (readFile : String → m (Except FileFault String)) (link : Link m)
    (i : Invocation) : m Outcome := do
  match ← loadConfig readFile i.config with
  | .error trouble => return .failure trouble
  | .ok c =>
    match i.command with
    | .checkConfig => return checkConfig c
    | .reindex file => reindex readFile link c file
    | .view time => view link c time

def perform [Monad m] (readFile : String → m (Except FileFault String)) (link : Link m)
    (args : List String) : m Outcome :=
  match readArguments args with
  | .run i => run readFile link i
  | .help topic => return { output := helpText topic }
  | .helpAboutHelp => return { output := lines helpAboutHelpText }
  | .version => return { output := versionText }
  | .misuse => return .misuse

end AlarmHistory.CommandLine
