import AlarmHistory.CommandLine.Arguments
/- What the command line tells about itself. -/
namespace AlarmHistory.CommandLine

def versionText : String := "alarm-archive 0.1.0\n"

def lines (ls : List String) : String := String.join (ls.map (· ++ "\n"))

def about : Topic → String
  | .reindex => "Bulk insert a JSON array of alarm documents"
  | .view => "Print the alarms that existed at a point in time"
  | .checkConfig => "Validate the configuration file"

def configHelp : String :=
  "  -c, --config <CONFIG>  Configuration file; built-in defaults when omitted"

def helpHelp : String := "  -h, --help             Print help"

def generalHelp : List String :=
  ["Alarm history archive administration", "",
    "Usage: alarm-archive [OPTIONS] <COMMAND>", "",
    "Commands:",
    "  reindex       " ++ about .reindex,
    "  view          " ++ about .view,
    "  check-config  " ++ about .checkConfig,
    "  help          Print this message or the help of the given subcommand(s)", "",
    "Options:", configHelp, helpHelp,
    "  -V, --version          Print version"]

def topicHelp : Topic → List String
  | .reindex =>
    [about .reindex, "", "Usage: alarm-archive reindex [OPTIONS] <FILE>", "",
      "Arguments:", "  <FILE>  JSON file holding the documents", "",
      "Options:", configHelp, helpHelp]
  | .view =>
    [about .view, "", "Usage: alarm-archive view [OPTIONS] --time <TIME>", "",
      "Options:", configHelp, "  -t, --time <TIME>      Query time, epoch milliseconds", helpHelp]
  | .checkConfig =>
    [about .checkConfig, "", "Usage: alarm-archive check-config [OPTIONS]", "",
      "Options:", configHelp, helpHelp]

def helpAboutHelpText : List String :=
  ["Print this message or the help of the given subcommand(s)", "",
    "Usage: alarm-archive help [COMMAND]...", "",
    "Arguments:", "  [COMMAND]...  Print help for the subcommand(s)"]

def helpText : Option Topic → String
  | none => lines generalHelp
  | some t => lines (topicHelp t)

end AlarmHistory.CommandLine
