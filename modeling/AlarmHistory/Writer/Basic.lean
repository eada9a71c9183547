import AlarmHistory.Queue
/- The writer behind a queue. It collects what arrives into batches and hands them to a store, one
   at a time. A batch is handed over when it is full, or when no more came in time.

   A stop lets the flush under way finish and begins no other; it is final. -/
namespace AlarmHistory

structure WriterStats where
  batches : Nat := 0
  items : Nat := 0
  failures : Nat := 0
  deriving DecidableEq, Repr

inductive Phase (α : Type) where
  | unlaunched
  | waiting
  | filling (batch : List α)
  | flushing (batch : List α)
  | exited
  deriving DecidableEq, Repr

namespace Phase

def isRunning : Phase α → Bool
  | unlaunched | exited => false
  | _ => true

end Phase

/-- A writer. `handed` holds every batch handed to the store so far, oldest first. -/
structure Writer (α : Type) where
  batchSize : Nat
  queue : Queue α
  phase : Phase α := .unlaunched
  stopRequested : Bool := false
  handed : List (List α) := []
  stats : WriterStats := {}
  deriving DecidableEq, Repr

inductive StartError where
  | alreadyStopped
  deriving DecidableEq, Repr

def StartError.message : StartError → String
  | alreadyStopped => "Already stopped"

namespace Writer

def ofSize (batchSize : Nat) (queue : Queue α) : Writer α := { batchSize := max batchSize 1, queue }

def isRunning (w : Writer α) : Bool := w.phase.isRunning

def offer (w : Writer α) (a : α) : Except Refusal (Writer α) :=
  (w.queue.offer a).map fun queue => { w with queue }

def start (w : Writer α) : Except StartError (Writer α) :=
  if w.stopRequested then .error .alreadyStopped
  else if w.phase matches .unlaunched then .ok { w with phase := .waiting }
  else .ok w

def requestStop (w : Writer α) : Writer α := { w with stopRequested := true }

def dropProducer (w : Writer α) : Writer α := { w with queue := w.queue.dropProducer }

def exit (w : Writer α) : Writer α := { w with phase := .exited, queue := w.queue.dropReceiver }

def hand (w : Writer α) (batch : List α) : Writer α :=
  { w with phase := .flushing batch, handed := w.handed ++ [batch] }

def topUp (w : Writer α) (batch : List α) : Writer α :=
  let (more, queue) := w.queue.drain (w.batchSize - batch.length)
  { w with phase := .filling (batch ++ more), queue }

/-- What the worker does next by itself, or nothing while it has to wait. -/
def turn (w : Writer α) : Option (Writer α) :=
  match w.phase with
  | .waiting =>
    if w.stopRequested then some w.exit
    else
      match w.queue.take with
      | (.item a, queue) => some ({ w with queue }.topUp [a])
      | (.none, _) => none
      | (.ended, _) => some w.exit
  | .filling batch =>
    if w.stopRequested then some w.exit
    else if w.batchSize ≤ batch.length then some (w.hand batch)
    else if !w.queue.waiting.isEmpty then some (w.topUp batch)
    else if w.queue.producers = 0 then some (w.hand batch)
    else none
  | _ => none

/-- The time for filling a batch is over. What is waiting by then still goes along. -/
def fillExpired (w : Writer α) : Writer α :=
  match w.phase with
  | .filling batch =>
    if w.stopRequested then w.exit
    else
      let w := w.topUp batch
      match w.phase with
      | .filling batch => w.hand batch
      | _ => w
  | _ => w

def flushEnded (w : Writer α) (failed : Option Nat) : Writer α :=
  match w.phase with
  | .flushing batch =>
    { w with
      phase := .waiting
      stats :=
        { batches := w.stats.batches + 1
          items := w.stats.items + (batch.length - failed.getD 0)
          failures := w.stats.failures + (if failed.isSome then 1 else 0) } }
  | _ => w

end Writer
end AlarmHistory
