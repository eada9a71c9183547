import AlarmHistory.Clock
import AlarmHistory.Config.Basic
import AlarmHistory.Lifecycle.Transition
import AlarmHistory.Writer.Timeline
/- The whole way of an alarm into the store. Every transition becomes a patch, stamped by the clock,
   and is offered to the queue of a writer. Whoever reports a transition never waits: a patch that
   cannot be made, or finds no room, is dropped. -/
namespace AlarmHistory

inductive Report where
  | happened (t : Transition) (alarm : Alarm)
  | automation (alarm : Alarm) (previous : Option Int64)
  deriving Repr

structure Archiver where
  clock : Clock
  nodes : NodeCache
  timeline : Timeline AlarmDocument
  deriving DecidableEq, Repr

namespace Archiver

def ofConfig (c : Config) (clock : Clock) (plans : List FlushPlan) : Archiver where
  clock := clock
  nodes := { maxEntries := c.nodeCacheMaxEntries }
  timeline :=
    { writer := .ofSize c.batchSize (.ofCapacity c.queueCapacity)
      fillWaitMs := c.maxFillWaitMs
      plans }

def record (a : Archiver) (t : Transition) (alarm : Alarm) : Archiver :=
  let (patch, nodes) := t.patch alarm a.clock.now a.nodes
  let a := { a with nodes }
  match patch with
  | .error _ => a
  | .ok doc =>
    match a.timeline.offer doc with
    | .ok timeline => { a with timeline }
    | .error _ => a

/-- Bookkeeping of automations is not recorded. -/
def hear (a : Archiver) : Report → Archiver
  | .happened t alarm => a.record t alarm
  | .automation _ _ => a

def start (a : Archiver) : Except StartError Archiver :=
  a.timeline.start.map fun timeline => { a with timeline }

def stop (a : Archiver) : Archiver := { a with timeline := a.timeline.stop }

def sleep (a : Archiver) (ms : Nat) : Archiver := { a with timeline := a.timeline.sleep ms }

end Archiver
end AlarmHistory
