/- A bounded queue between many producers and one receiver. Nobody waits to put something in: an
   offer to a full queue is refused. The queue is open while it has its receiver. -/
namespace AlarmHistory

structure Queue (α : Type) where
  capacity : Nat
  waiting : List α := []
  producers : Nat := 1
  isOpen : Bool := true
  deriving DecidableEq, Repr

inductive Refusal where
  | full (capacity : Nat)
  | closed
  deriving DecidableEq, Repr

def Refusal.name : Refusal → String
  | full _ => "QueueFull"
  | closed => "QueueClosed"

def Refusal.message : Refusal → String
  | full capacity => "Ingest queue full (capacity " ++ toString capacity ++ ")"
  | closed => "Ingest queue closed"

inductive Arrival (α : Type) where
  | item (a : α)
  | none
  | ended
  deriving DecidableEq, Repr

namespace Queue

/-- Every queue has room for at least one. -/
def ofCapacity (n : Nat) : Queue α := { capacity := max n 1 }

def length (q : Queue α) : Nat := q.waiting.length

def offer (q : Queue α) (a : α) : Except Refusal (Queue α) :=
  if !q.isOpen then .error .closed
  else if q.capacity ≤ q.length then .error (.full q.capacity)
  else .ok { q with waiting := q.waiting ++ [a] }

/-- The first in the queue. With no producers left an empty queue has ended. -/
def take (q : Queue α) : Arrival α × Queue α :=
  match q.waiting with
  | a :: rest => (.item a, { q with waiting := rest })
  | [] => (if q.producers = 0 then .ended else .none, q)

def drain (q : Queue α) (limit : Nat) : List α × Queue α :=
  (q.waiting.take limit, { q with waiting := q.waiting.drop limit })

def addProducer (q : Queue α) : Queue α := { q with producers := q.producers + 1 }

def dropProducer (q : Queue α) : Queue α := { q with producers := q.producers - 1 }

def dropProducers (q : Queue α) : Queue α := { q with producers := 0 }

def dropReceiver (q : Queue α) : Queue α := { q with waiting := [], isOpen := false }

end Queue
end AlarmHistory
