import AlarmHistory.Index.Name
import AlarmHistory.Json.Record
/- Settings of an archive, and what makes a set of them usable. -/
namespace AlarmHistory

structure Config where
  storeUrl : String := "http://localhost:9200"
  username : Option String := none
  password : Option String := none
  indexPrefix : String := "opennms-alarms"
  granularity : Granularity := .monthly
  bulkRetries : Nat := 3
  retryDelayMs : Nat := 500
  batchSize : Nat := 200
  maxFillWaitMs : Nat := 500
  queueCapacity : Nat := 100
  requestTimeoutMs : Nat := 30000
  nodeCacheMaxEntries : Nat := 10000
  usePseudoClock : Bool := false
  deriving DecidableEq, Repr

inductive ConfigFault where
  | batchSizeZero
  | queueCapacityZero
  | maxFillWaitZero
  | indexPrefixBlank
  | passwordWithoutUsername
  deriving DecidableEq, Repr

def ConfigFault.message (f : ConfigFault) : String :=
  "Configuration error: " ++
    match f with
    | batchSizeZero => "batch_size must be greater than 0"
    | queueCapacityZero => "queue_capacity must be greater than 0"
    | maxFillWaitZero => "max_fill_wait_ms must be greater than 0"
    | indexPrefixBlank => "index_prefix must not be empty"
    | passwordWithoutUsername => "password given without username"

/-- Characters that count as white space in any script. -/
def isWhiteSpace (c : Char) : Bool :=
  let n := c.toNat
  (0x9 ≤ n && n ≤ 0xD) || n == 0x20 || n == 0x85 || n == 0xA0 || n == 0x1680 ||
    (0x2000 ≤ n && n ≤ 0x200A) || n == 0x2028 || n == 0x2029 || n == 0x202F || n == 0x205F ||
    n == 0x3000

namespace Config

open Json Json.Decoder

def fault? (c : Config) : Option ConfigFault :=
  if c.batchSize = 0 then some .batchSizeZero
  else if c.queueCapacity = 0 then some .queueCapacityZero
  else if c.maxFillWaitMs = 0 then some .maxFillWaitZero
  else if c.indexPrefix.toList.all isWhiteSpace then some .indexPrefixBlank
  else if c.password.isSome ∧ c.username = none then some .passwordWithoutUsername
  else none

def json (c : Config) : Json :=
  .obj [("elastic_url", .str c.storeUrl), ("username", optional .str c.username),
    ("password", optional .str c.password), ("index_prefix", .str c.indexPrefix),
    ("index_strategy", .str c.granularity.name), ("bulk_retry_count", .int c.bulkRetries),
    ("retry_delay_ms", .int c.retryDelayMs), ("batch_size", .int c.batchSize),
    ("max_fill_wait_ms", .int c.maxFillWaitMs), ("queue_capacity", .int c.queueCapacity),
    ("request_timeout_ms", .int c.requestTimeoutMs),
    ("node_cache_max_entries", .int c.nodeCacheMaxEntries),
    ("use_pseudo_clock", .bool c.usePseudoClock)]

end Config

def Granularity.decoder : Json.Decoder Granularity :=
  Json.Decoder.oneOf (Granularity.all.map fun g => (g.name, g))

namespace Config

open Json Json.Decoder

def decoder : Decoder Config :=
  let d : Config := {}
  Record.pure Config.mk
    |>.defaulted "elastic_url" string d.storeUrl
    |>.optional "username" string
    |>.optional "password" string
    |>.defaulted "index_prefix" string d.indexPrefix
    |>.defaulted "index_strategy" Granularity.decoder d.granularity
    |>.defaulted "bulk_retry_count" (natural 32) d.bulkRetries
    |>.defaulted "retry_delay_ms" (natural 64) d.retryDelayMs
    |>.defaulted "batch_size" (natural 64) d.batchSize
    |>.defaulted "max_fill_wait_ms" (natural 64) d.maxFillWaitMs
    |>.defaulted "queue_capacity" (natural 64) d.queueCapacity
    |>.defaulted "request_timeout_ms" (natural 64) d.requestTimeoutMs
    |>.defaulted "node_cache_max_entries" (natural 64) d.nodeCacheMaxEntries
    |>.defaulted "use_pseudo_clock" bool d.usePseudoClock
    |>.decoder

end Config
end AlarmHistory
