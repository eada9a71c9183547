import AlarmHistory.Config.Basic
import AlarmHistory.Decimal.Digits
import AlarmHistory.Yaml.Node
/- Settings as they stand in a configuration file. The file holds one mapping, or nothing. Settings
   that it leaves out keep their defaults, and keys that are no settings are skipped. -/
namespace AlarmHistory

open Yaml

namespace Yaml

def isNullWord (s : String) : Bool := ["null", "Null", "NULL", "~"].contains s

def nullTag : TagBytes := "tag:yaml.org,2002:null".toUTF8.toList

def intTag : TagBytes := "tag:yaml.org,2002:int".toUTF8.toList

def boolTag : TagBytes := "tag:yaml.org,2002:bool".toUTF8.toList

def ofBase? (base : Nat) (cs : List Char) : Option Nat :=
  if cs.isEmpty then none
  else cs.foldlM (fun n c => do
    let d ← hexDigit? c
    if d < base then some (base * n + d) else none) 0

/-- An unsigned integer: in decimal without superfluous zeros, or with the sign of its base. -/
def unsigned? (s : String) : Option Nat :=
  let signed := s.toList
  let cs := if signed.head? == some '+' then signed.tail else signed
  match cs with
  | '0' :: 'x' :: ds => ofBase? 16 ds
  | '0' :: 'o' :: ds => ofBase? 8 ds
  | '0' :: 'b' :: ds => ofBase? 2 ds
  | '0' :: _ :: _ => none
  | _ => ofBase? 10 cs

def bool? (s : String) : Option Bool :=
  if ["true", "True", "TRUE"].contains s then some true
  else if ["false", "False", "FALSE"].contains s then some false
  else none

namespace Scalar

/-- The text of a scalar that may be something else than a string: a plain one, or a literal one
   whose tag says so. -/
def typed? (wanted : TagBytes) (s : Scalar) : Option String :=
  match s.style with
  | .plain => some s.text
  | .literal => if s.tag == some wanted then some s.text else none
  | _ => none

def isVoid (s : Scalar) : Bool := s.style == .plain && (s.text == "" || isNullWord s.text)

/-- A text or nothing. A tag makes it a text, but for the tag of nothing, which then has to be
   true. -/
def optionalText? (s : Scalar) : Option (Option String) :=
  if s.style != .plain then some (some s.text)
  else match s.tag with
    | none => some (if s.isVoid then none else some s.text)
    | some tag =>
      if tag == nullTag then (if isNullWord s.text then some none else none)
      else some (some s.text)

def natural? (bits : Nat) (s : Scalar) : Option Nat := do
  let i ← unsigned? (← s.typed? intTag)
  if i < Nat.pow 2 bits then some i else none

def flag? (s : Scalar) : Option Bool := s.typed? boolTag >>= bool?

def localTag? (s : Scalar) : Option String :=
  match s.tag with
  | some (0x21 :: name) => String.fromUTF8? ⟨name.toArray⟩
  | _ => none

def oneOf? (names : List (String × α)) (s : Scalar) : Option α :=
  match s.localTag? with
  | some name => if s.isVoid then names.lookup name else none
  | none => names.lookup s.text

end Scalar
end Yaml

namespace Config

def granularities : List (String × Granularity) := Granularity.all.map fun g => (g.name, g)

def settings : List (String × (Config → Yaml.Scalar → Option Config)) :=
  [("elastic_url", fun c n => some { c with storeUrl := n.text }),
    ("username", fun c n => n.optionalText?.map fun v => { c with username := v }),
    ("password", fun c n => n.optionalText?.map fun v => { c with password := v }),
    ("index_prefix", fun c n => some { c with indexPrefix := n.text }),
    ("index_strategy",
      fun c n => (n.oneOf? granularities).map fun v => { c with granularity := v }),
    ("bulk_retry_count", fun c n => (n.natural? 32).map fun v => { c with bulkRetries := v }),
    ("retry_delay_ms", fun c n => (n.natural? 64).map fun v => { c with retryDelayMs := v }),
    ("batch_size", fun c n => (n.natural? 64).map fun v => { c with batchSize := v }),
    ("max_fill_wait_ms", fun c n => (n.natural? 64).map fun v => { c with maxFillWaitMs := v }),
    ("queue_capacity", fun c n => (n.natural? 64).map fun v => { c with queueCapacity := v }),
    ("request_timeout_ms",
      fun c n => (n.natural? 64).map fun v => { c with requestTimeoutMs := v }),
    ("node_cache_max_entries",
      fun c n => (n.natural? 64).map fun v => { c with nodeCacheMaxEntries := v }),
    ("use_pseudo_clock", fun c n => n.flag?.map fun v => { c with usePseudoClock := v })]

def takeSettings (d : Yaml.Document) :
    List String → Config → List (Yaml.Node × Yaml.Node) → Option Config
  | _, c, [] => some c
  | seen, c, (k, v) :: rest => do
    let key := (← d.scalar? k).text
    match settings.lookup key with
    | none => takeSettings d seen c rest
    | some set =>
      if key ∈ seen then none
      else takeSettings d (key :: seen) (← set c (← d.scalar? v)) rest

def ofDocument? (d : Yaml.Document) : Option Config :=
  match d.root with
  | .mapping pairs => takeSettings d [] {} pairs
  | .scalar s => if s.style == .plain && s.text == "" then some {} else none
  | _ => none

inductive TextFault where
  | yaml
  | fault (f : ConfigFault)
  deriving DecidableEq, Repr

def ofYaml (text : String) : Except TextFault Config :=
  match parse? text >>= ofDocument? with
  | none => .error .yaml
  | some c =>
    match c.fault? with
    | some f => .error (.fault f)
    | none => .ok c

end Config
end AlarmHistory
