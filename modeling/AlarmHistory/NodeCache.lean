import AlarmHistory.Alarm
import AlarmHistory.Document.Basic
/- Node summaries, made once for a node and used for every later document. An entry is never
   replaced. When the cache is full, further nodes are summarised anew on every use. -/
namespace AlarmHistory

def Node.summary (n : Node) : NodeSummary :=
  ⟨n.id, n.label, n.foreignSource, n.foreignId, n.categories⟩

structure NodeCache where
  maxEntries : Nat
  entries : List NodeSummary := []
  deriving DecidableEq, Repr

namespace NodeCache

def size (c : NodeCache) : Nat := c.entries.length

def find? (c : NodeCache) (id : Int32) : Option NodeSummary :=
  c.entries.find? fun s => s.id == id

/-- The summary for a node, and the cache after it has been asked for. -/
def summarise (c : NodeCache) (n : Node) : NodeSummary × NodeCache :=
  match c.find? n.id with
  | some s => (s, c)
  | none =>
    if c.maxEntries ≤ c.size then (n.summary, c)
    else (n.summary, { c with entries := c.entries ++ [n.summary] })

end NodeCache
end AlarmHistory
