import AlarmHistory.Decimal.Digits
/- The arguments of the command line. They are read from left to right, and the first one that is
   wrong, or that asks for help or the version, decides. -/
namespace AlarmHistory.CommandLine

open Decimal

inductive Command where
  | reindex (file : String)
  | view (time : Int64)
  | checkConfig
  deriving DecidableEq, Repr

inductive Topic where
  | reindex
  | view
  | checkConfig
  deriving DecidableEq, Repr

namespace Topic

def name : Topic → String
  | reindex => "reindex"
  | view => "view"
  | checkConfig => "check-config"

def all : List Topic := [reindex, view, checkConfig]

def named? (s : String) : Option Topic := all.find? fun t => t.name == s

end Topic

structure Invocation where
  config : Option String
  command : Command
  deriving DecidableEq, Repr

inductive Request where
  | run (i : Invocation)
  | help (about : Option Topic)
  | helpAboutHelp
  | version
  | misuse
  deriving DecidableEq, Repr

/-- What has been given so far. The settings file may be named before the command and again after
   it, and then the latter counts. A wrong value before the command is noted, and shows itself at
   the next option or at the end: help about a command or about all of them goes first. -/
structure Given where
  topic : Option Topic := none
  outerConfig : Option String := none
  config : Option String := none
  file : Option String := none
  time : Option Int64 := none
  wrong : Bool := false
  flagsOver : Bool := false
  deriving DecidableEq, Repr

inductive Setting where
  | config
  | time
  deriving DecidableEq, Repr

def time? (s : String) : Option Int64 :=
  let ofDigits (sign : Int) (ds : List Char) : Option Int64 := do
    let i := sign * (← natOfDigits? ds)
    if Int64.minValue.toInt ≤ i ∧ i ≤ Int64.maxValue.toInt then some (Int64.ofInt i) else none
  match s.toList with
  | '-' :: ds => ofDigits (-1) ds
  | '+' :: ds => ofDigits 1 ds
  | ds => ofDigits 1 ds

namespace Given

def set (g : Given) (o : Setting) (value : String) : Option Given :=
  match o with
  | .config =>
    if value == "" || g.config.isSome then none else some { g with config := some value }
  | .time =>
    if g.time.isSome then none else (time? value).map fun t => { g with time := some t }

def longSetting? (g : Given) (name : List Char) : Option Setting :=
  if name == "config".toList then some .config
  else if name == "time".toList && g.topic == some .view then some .time
  else none

def shortSetting? (g : Given) (c : Char) : Option Setting :=
  if c == 'c' then some .config
  else if c == 't' && g.topic == some .view then some .time
  else none

/-- An argument that is no option: the command, or what the command works on. -/
def place (g : Given) (value : String) : Option Given :=
  match g.topic with
  | none =>
    if g.flagsOver then none
    else (Topic.named? value).map fun t =>
      { g with topic := some t, outerConfig := g.config, config := none }
  | some .reindex =>
    if value == "" || g.file.isSome then none else some { g with file := some value }
  | _ => none

def finish (g : Given) : Request :=
  let run (c : Command) : Request := .run ⟨g.config.or g.outerConfig, c⟩
  if g.wrong then .misuse
  else match g.topic, g.file, g.time with
    | some .reindex, some file, _ => run (.reindex file)
    | some .view, _, some time => run (.view time)
    | some .checkConfig, _, _ => run .checkConfig
    | _, _, _ => .misuse

def admits (g : Given) (arg : String) : Bool :=
  !g.wrong || g.topic.isSome || arg == "help" || (Topic.named? arg).isSome

end Given

/-- A value that begins like an option is not taken for a value. -/
def looksLikeOption (s : String) : Bool :=
  match s.toList with
  | '-' :: _ :: _ => true
  | _ => false

def Given.setNext (g : Given) (o : Setting) (value : String) : Option Given :=
  if looksLikeOption value then none
  else (g.set o value).or (if g.topic.isNone then some { g with wrong := true } else none)

def splitValue (cs : List Char) : List Char × Option String :=
  match cs.dropWhile (· != '=') with
  | _ :: value => (cs.takeWhile (· != '='), some (String.ofList value))
  | [] => (cs, none)

def helpAbout : List String → Request
  | [] => .help none
  | [name] =>
    if name == "help" then .helpAboutHelp
    else match Topic.named? name with
      | some t => .help (some t)
      | none => .misuse
  | _ => .misuse

def ofSetting (o : Option Given) (next : Given → Request) : Request :=
  match o with
  | some g => next g
  | none => .misuse

def read (g : Given) : List String → Request
  | [] => g.finish
  | arg :: rest =>
    let cs := arg.toList
    if !g.admits arg then .misuse
    else if !g.flagsOver && arg == "--" then read { g with flagsOver := true } rest
    else if !g.flagsOver && looksLikeOption arg then
      match cs with
      | '-' :: '-' :: long =>
        let (name, value) := splitValue long
        if name == "help".toList then (if value.isSome then .misuse else .help g.topic)
        else if name == "version".toList then
          if value.isSome || g.topic.isSome then .misuse else .version
        else
          match g.longSetting? name, value with
          | some o, some v => ofSetting (g.set o v) fun g => read g rest
          | some o, none =>
            match rest with
            | v :: rest => ofSetting (g.setNext o v) fun g => read g rest
            | [] => .misuse
          | none, _ => .misuse
      | '-' :: c :: attached =>
        if c == 'h' then .help g.topic
        else if c == 'V' then (if g.topic.isSome then .misuse else .version)
        else
          match g.shortSetting? c, attached with
          | some o, '=' :: v => ofSetting (g.set o (String.ofList v)) fun g => read g rest
          | some o, _ :: _ => ofSetting (g.set o (String.ofList attached)) fun g => read g rest
          | some o, [] =>
            match rest with
            | v :: rest => ofSetting (g.setNext o v) fun g => read g rest
            | [] => .misuse
          | none, _ => .misuse
      | _ => .misuse
    else if g.topic == none && !g.flagsOver && arg == "help" then helpAbout rest
    else ofSetting (g.place arg) fun g => read g rest

def readArguments (args : List String) : Request := read {} args

end AlarmHistory.CommandLine
