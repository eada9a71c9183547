import AlarmHistory.Writer.Basic
/- A writer whose waits and flushes take time. Time passes only when it is let pass; everything
   that is due within a span happens in order. How long each flush takes, and what comes of it, is
   planned ahead; flushes beyond the plan take no time and succeed. -/
namespace AlarmHistory

structure FlushPlan where
  delayMs : Nat := 0
  failed : Option Nat := none
  deriving DecidableEq, Repr

structure Timeline (α : Type) where
  writer : Writer α
  fillWaitMs : Nat
  plans : List FlushPlan := []
  now : Nat := 0
  due : Nat := 0
  deriving DecidableEq, Repr

namespace Timeline

def plan (t : Timeline α) : FlushPlan := t.plans.head?.getD {}

def follow (t : Timeline α) (w : Writer α) : Timeline α :=
  match t.writer.phase, w.phase with
  | .filling _, .filling _ => { t with writer := w }
  | _, .filling _ => { t with writer := w, due := t.now + t.fillWaitMs }
  | _, .flushing _ => { t with writer := w, due := t.now + t.plan.delayMs }
  | _, _ => { t with writer := w }

def elapse (t : Timeline α) : Option (Timeline α) :=
  let t := { t with now := max t.now t.due }
  match t.writer.phase with
  | .filling _ => some (t.follow t.writer.fillExpired)
  | .flushing _ =>
    some { t with writer := t.writer.flushEnded t.plan.failed, plans := t.plans.tail }
  | _ => none

/-- The next thing that happens up to a moment, if there is one. Without a moment there is no
   limit. -/
def next (t : Timeline α) (until? : Option Nat) : Option (Timeline α) :=
  match t.writer.turn with
  | some w => some (t.follow w)
  | none => if until?.all (t.due ≤ ·) then t.elapse else none

def steps (until? : Option Nat) : Nat → Timeline α → Timeline α
  | 0, t => t
  | fuel + 1, t =>
    match t.next until? with
    | some t => steps until? fuel t
    | none => t

def weight (t : Timeline α) : Nat :=
  3 * t.writer.queue.length +
    match t.writer.phase with
    | .unlaunched | .exited => 0
    | .waiting => 1
    | .flushing _ => 2
    | .filling _ => 3

def settle (t : Timeline α) (until? : Option Nat) : Timeline α := t.steps until? t.weight

/-- Lets time pass. In no time nothing happens, not even what is due at once. -/
def sleep (t : Timeline α) (ms : Nat) : Timeline α :=
  if ms = 0 then t
  else
    let moment := t.now + ms
    { t.settle (some moment) with now := moment }

def stop (t : Timeline α) : Timeline α :=
  { t with writer := t.writer.requestStop }.settle none

def offer (t : Timeline α) (a : α) : Except Refusal (Timeline α) :=
  (t.writer.offer a).map fun writer => { t with writer }

def start (t : Timeline α) : Except StartError (Timeline α) :=
  t.writer.start.map fun writer => { t with writer }

end Timeline
end AlarmHistory
