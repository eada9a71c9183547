import AlarmHistory.Proofs.Writer.Schedule

/- A writer together with what its lifecycle is spread over: the receiver of the queue and the sender
   that tells of the worker's exit by being dropped, both given to the worker when it is launched,
   and the handle on the worker. Calls to start and stop come one after the other, also while stops
   wait, and a stop call returns when the sender is gone and the worker, if it finds a handle on it,
   has finished.

   The worker runs on a thread of its own. A stop may come between its look for one and what it goes
   on with, so that it still takes an item, or hands over the batch that it was filling. -/
namespace AlarmHistory.Writer
variable {α : Type}

inductive Holder where
  | writer
  | worker
  | nobody
  deriving DecidableEq, Repr

def Holder.afterWorker : Holder → Holder
  | worker => nobody
  | h => h

def stillAt : Phase α → Phase α → Bool
  | .waiting, .waiting | .filling _, .filling _ => true
  | _, _ => false

/-- `launches` counts the workers launched so far, `stopping` the stop calls that have not returned.
    A worker that has `looked` has found no stop and may go on, whatever comes meanwhile. -/
structure Session (α : Type) where
  writer : Writer α
  receiver : Holder := .writer
  sender : Holder := .writer
  handle : Bool := false
  launches : Nat := 0
  stopping : Nat := 0
  looked : Bool := false
  deriving DecidableEq, Repr

namespace Session

def ofSize (size capacity : Nat) : Session α := { writer := .ofSize size (.ofCapacity capacity) }

def isRunning (s : Session α) : Bool := s.handle && s.writer.phase.isRunning

def launch (s : Session α) : Session α :=
  { s with
    writer := { s.writer with phase := .waiting }
    receiver := .worker
    sender := .worker
    handle := true
    launches := s.launches + 1 }

/-- Without a receiver there has been a start before. Without a sender the receiver is lost. -/
def start (s : Session α) : Option StartError × Session α :=
  if s.writer.stopRequested then (some .alreadyStopped, s)
  else if s.receiver ≠ .writer then (none, s)
  else if s.sender ≠ .writer then
    (some .alreadyStopped,
      { s with
        writer := { s.writer with queue := s.writer.queue.dropReceiver }
        receiver := .nobody })
  else (none, s.launch)

def callStop (s : Session α) : Session α :=
  { s with
    writer := s.writer.requestStop
    sender := if s.sender = .writer then .nobody else s.sender
    stopping := s.stopping + 1 }

def returnStop? (s : Session α) : Option (Session α) :=
  if s.stopping = 0 ∨ s.sender ≠ .nobody ∨ s.isRunning then none
  else some { s with handle := false, stopping := s.stopping - 1 }

def look? (s : Session α) : Option (Session α) :=
  if stillAt s.writer.phase s.writer.phase && !s.writer.stopRequested then
    some { s with looked := true }
  else none

def follow (s : Session α) (w : Writer α) : Session α :=
  let looked := s.looked && stillAt s.writer.phase w.phase
  match w.phase with
  | .exited =>
    { s with
      writer := w, receiver := s.receiver.afterWorker, sender := s.sender.afterWorker, looked }
  | _ => { s with writer := w, looked }

inductive Event (α : Type) where
  | writer (e : Writer.Event α)
  | looked
  | stopReturned
  deriving DecidableEq, Repr

/-- Item by item the worker moves only after a look. Where it moves in one go, its look is part of
    that. -/
def after? (s : Session α) : Event α → Option (Session α)
  | .writer .startCalled => some s.start.2
  | .writer .stopRequested => some s.callStop
  | .writer .collected => if s.looked then s.writer.collect?.map s.follow else none
  | .writer .handedOver => if s.looked then s.writer.handOver?.map s.follow else none
  | .writer e => (s.writer.after? e).map s.follow
  | .looked => s.look?
  | .stopReturned => s.returnStop?

def run? (s : Session α) (es : List (Event α)) : Option (Session α) := es.foldlM after? s

def Event.writer? : Event α → Option (Writer.Event α)
  | .writer e => some e
  | _ => none

def finished (es : List (Event α)) : Nat := flushesEnded (es.filterMap Event.writer?)

inductive Call where
  | start
  | stop
  deriving DecidableEq, Repr

def Event.call? : Event α → Option Call
  | .writer .startCalled => some .start
  | .writer .stopRequested => some .stop
  | _ => none

def firstCall (es : List (Event α)) : Option Call := es.findSome? Event.call?

end Session

inductive Does (w : Writer α) (e : Event α) : Writer α → Prop
  | stays {queue : Queue α} (isOpen : queue.isOpen = w.queue.isOpen)
      (shut : w.queue.isOpen = false → queue.waiting = w.queue.waiting)
      (unended : e.isFlushEnd = false) : Does w e { w with queue }
  | collects {batch : List α} {queue : Queue α} (collecting : w.Collecting)
      (grows : w.phase.collected <+: batch) (unasked : w.stopRequested = false ∨ e = .collected)
      (unended : e.isFlushEnd = false) : Does w e { w with phase := .filling batch, queue }
  | hands {batch : List α} {queue : Queue α} (collecting : w.Collecting)
      (grows : w.phase.collected <+: batch)
      (unasked : w.stopRequested = false ∨ w.phase = .filling batch ∧ e = .handedOver)
      (unended : e.isFlushEnd = false) : Does w e ({ w with queue }.hand batch)
  | leaves (collecting : w.Collecting) (unended : e.isFlushEnd = false) : Does w e w.exit
  | lands {batch : List α} {failed : Option Nat} (flushing : w.phase = .flushing batch)
      (ended : e = .flushEnded failed) : Does w e (w.flushEnded failed)

def Event.isCall : Event α → Bool
  | .startCalled | .stopRequested => true
  | _ => false

section Does
variable {w v : Writer α} {e : Event α}

theorem collecting_running (collecting : w.Collecting) : w.phase.isRunning = true := by
  rcases collecting with waiting | ⟨batch, filling⟩
  · rw [waiting]
    rfl
  · rw [filling]
    rfl

theorem running_launched {p : Phase α} (running : p.isRunning = true) :
    p ≠ .unlaunched := by
  rintro rfl
  cases running

theorem Effect.does (effect : w.Effect e v) (uncalled : e.isCall = false) : w.Does e v := by
  cases effect with
  | accepted offered opened =>
    exact .stays rfl (fun shut => absurd (opened.symm.trans shut) (by decide)) (offered ▸ rfl)
  | nothing _ unended => exact .stays rfl (fun _ => rfl) unended
  | producers n counted =>
    exact .stays rfl (fun _ => rfl) (by rcases counted with rfl | rfl <;> rfl)
  | launched called => simp [called, Event.isCall] at uncalled
  | asked called => simp [called, Event.isCall] at uncalled
  | leaves work leaves =>
    obtain ⟨collecting, _, rfl⟩ := leaves
    exact .leaves collecting (work_silent work).2
  | collects work collects unasked =>
    obtain ⟨collecting, more, rest, _, _, _, rfl⟩ := collects
    exact .collects collecting (List.prefix_append _ _) unasked (work_silent work).2
  | hands work gathers hands unasked =>
    obtain ⟨batch, filling, rfl⟩ := hands
    rcases gathers with rfl | ⟨collecting, more, rest, _, _, _, rfl⟩
    · refine .hands (Or.inr ⟨batch, filling⟩) ?_ ?_ (work_silent work).2
      · rw [filling]
        exact List.prefix_rfl
      · exact unasked.imp_right fun late => ⟨filling, late.2⟩
    · cases filling
      refine .hands collecting (List.prefix_append _ _) ?_ (work_silent work).2
      exact unasked.imp_right fun late => ⟨(congrArg Writer.phase late.1).symm, late.2⟩
  | landed flushing ended => exact .lands flushing ended

theorem Does.stopRequested_eq (does : w.Does e v) : v.stopRequested = w.stopRequested := by
  cases does with
  | lands flushing _ => simp [flushEnded, flushing]
  | _ => rfl

end Does

namespace Session
variable {s v : Session α} {w : Writer α} {e : Event α} {es : List (Event α)}

theorem follow_writer (s : Session α) (w : Writer α) : (s.follow w).writer = w := by
  unfold follow
  split <;> rfl

theorem follow_launches (s : Session α) (w : Writer α) : (s.follow w).launches = s.launches := by
  unfold follow
  split <;> rfl

theorem follow_stopping (s : Session α) (w : Writer α) : (s.follow w).stopping = s.stopping := by
  unfold follow
  split <;> rfl

theorem follow_looked (still : (s.follow w).looked = true) :
    s.looked = true ∧ stillAt s.writer.phase w.phase = true := by
  unfold follow at still
  split at still <;> simpa using still

/-- What happens in a session. A stop is overtaken by what the worker does item by item only. -/
inductive Happens (s : Session α) : Event α → Session α → Prop
  | started : Happens s (.writer .startCalled) s.start.2
  | asked : Happens s (.writer .stopRequested) s.callStop
  | returned {v : Session α} (returns : s.returnStop? = some v) : Happens s .stopReturned v
  | looked (unasked : s.writer.stopRequested = false) : Happens s .looked { s with looked := true }
  | moved {f : Writer.Event α} {w : Writer α} (uncalled : f.isCall = false)
      (moves : s.writer.after? f = some w) (does : s.writer.Does f w)
      (looked : f = .collected ∨ f = .handedOver → s.looked = true) :
      Happens s (.writer f) (s.follow w)

theorem after_happens (happens : s.after? e = some v) : s.Happens e v := by
  have moved : ∀ {f : Writer.Event α}, f.isCall = false →
      (f = .collected ∨ f = .handedOver → s.looked = true) →
      (s.writer.after? f).map s.follow = some v → s.Happens (.writer f) v := by
    intro f uncalled looked moves
    obtain ⟨w, moved, rfl⟩ := Option.map_eq_some_iff.mp moves
    exact .moved uncalled moved ((after_effect moved).does uncalled) looked
  cases e with
  | stopReturned => exact .returned happens
  | looked =>
    simp only [after?, look?] at happens
    split at happens
    · rename_i may
      cases happens
      exact .looked (by simpa using (Bool.and_eq_true_iff.mp may).2)
    · cases happens
  | writer f =>
    cases f with
    | startCalled =>
      cases happens
      exact .started
    | stopRequested =>
      cases happens
      exact .asked
    | collected | handedOver =>
      simp only [after?] at happens
      split at happens
      · rename_i looked
        exact moved rfl (fun _ => looked) happens
      · cases happens
    | _ => exact moved rfl (by simp) happens

theorem returned (returns : s.returnStop? = some v) :
    0 < s.stopping ∧ s.sender = .nobody ∧ s.isRunning = false ∧
      v = { s with handle := false, stopping := s.stopping - 1 } := by
  unfold returnStop? at returns
  split at returns
  · cases returns
  · rename_i ready
    cases returns
    simp only [not_or, Decidable.not_not, Bool.not_eq_true] at ready
    exact ⟨Nat.pos_of_ne_zero ready.1, ready.2.1, ready.2.2, rfl⟩

/-- Who holds what before there is a worker, while it runs, and after it has exited. -/
inductive Stage (s : Session α) : Prop
  | unlaunched (phase : s.writer.phase = .unlaunched) (receiver : s.receiver = .writer)
      (sender : s.sender = if s.writer.stopRequested then .nobody else .writer)
      (fresh : s.launches = 0) (isOpen : s.writer.queue.isOpen = true)
  | running (phase : s.writer.phase.isRunning = true) (receiver : s.receiver = .worker)
      (sender : s.sender = .worker) (handle : s.handle = true) (once : s.launches = 1)
  | exited (phase : s.writer.phase = .exited) (receiver : s.receiver = .nobody)
      (sender : s.sender = .nobody) (once : s.launches = 1)
      (shut : s.writer.queue.isOpen = false) (empty : s.writer.queue.waiting = [])

namespace Stage

theorem isRunning_eq (stage : s.Stage) : s.isRunning = s.writer.isRunning := by
  unfold isRunning Writer.isRunning
  cases stage with
  | unlaunched phase => simp [phase, Phase.isRunning]
  | running _ _ _ handle => simp [handle]
  | exited phase => simp [phase, Phase.isRunning]

theorem start_eq (stage : s.Stage) : s.start =
    if s.writer.stopRequested then (some .alreadyStopped, s)
    else if s.writer.phase matches .unlaunched then (none, s.launch) else (none, s) := by
  unfold start
  split
  · rfl
  · rename_i unasked
    cases stage with
    | unlaunched phase receiver sender =>
      rw [if_neg unasked] at sender
      simp [phase, receiver, sender]
    | running phase receiver =>
      rw [if_pos (by simp [receiver])]
      split
      · rename_i unlaunched
        exact absurd unlaunched (running_launched phase)
      · rfl
    | exited phase receiver => simp [phase, receiver]

theorem started (stage : s.Stage) : s.start.2.Stage := by
  rw [stage.start_eq]
  split
  · exact stage
  · split
    · rename_i unasked unlaunched
      cases stage with
      | unlaunched phase receiver sender fresh =>
        exact .running rfl rfl rfl rfl (by simp [launch, fresh])
      | running phase => exact absurd unlaunched (running_launched phase)
      | exited phase => simp [phase] at unlaunched
    · exact stage

theorem asked (stage : s.Stage) : s.callStop.Stage := by
  cases stage with
  | unlaunched phase receiver sender fresh isOpen =>
    refine .unlaunched phase receiver ?_ fresh isOpen
    simp only [callStop, requestStop, sender, if_true]
    by_cases asked : s.writer.stopRequested = true
    · simp [asked]
    · simp [asked]
  | running phase receiver sender handle once =>
    exact .running phase receiver (by simp [callStop, sender]) handle once
  | exited phase receiver sender once shut empty =>
    exact .exited phase receiver (by simp [callStop, sender]) once shut empty

theorem returned (stage : s.Stage) (returns : s.returnStop? = some v) : v.Stage := by
  obtain ⟨_, gone, _, rfl⟩ := Session.returned returns
  cases stage with
  | unlaunched phase receiver sender fresh isOpen =>
    exact .unlaunched phase receiver sender fresh isOpen
  | running _ _ sender => cases sender.symm.trans gone
  | exited phase receiver sender once shut empty =>
    exact .exited phase receiver sender once shut empty

theorem works {w : Writer α} (stage : s.Stage) (before : s.writer.phase.isRunning = true)
    (still : w.phase.isRunning = true) : (s.follow w).Stage := by
  have same : s.follow w =
      { s with writer := w, looked := s.looked && stillAt s.writer.phase w.phase } := by
    unfold follow
    split
    · rename_i exited
      simp [exited, Phase.isRunning] at still
    · rfl
  rw [same]
  cases stage with
  | unlaunched phase => simp [phase, Phase.isRunning] at before
  | running _ receiver sender handle once => exact .running still receiver sender handle once
  | exited phase => simp [phase, Phase.isRunning] at before

theorem did {f : Writer.Event α} {w : Writer α} (stage : s.Stage) (does : s.writer.Does f w) :
    (s.follow w).Stage := by
  cases does with
  | stays isOpen shut unended =>
    cases stage with
    | unlaunched phase receiver sender fresh isOpen' =>
      simp only [follow, phase]
      exact .unlaunched rfl receiver sender fresh (isOpen.trans isOpen')
    | running phase receiver sender handle once =>
      exact works (.running phase receiver sender handle once) phase phase
    | exited phase receiver sender once shut' empty =>
      simp only [follow, phase]
      refine .exited rfl ?_ ?_ once (isOpen.trans shut') ((shut shut').trans empty)
      · simp [receiver, Holder.afterWorker]
      · simp [sender, Holder.afterWorker]
  | collects collecting => exact stage.works (collecting_running collecting) rfl
  | hands collecting => exact stage.works (collecting_running collecting) rfl
  | lands flushing =>
    refine stage.works ?_ ?_
    · rw [flushing]
      rfl
    · simp [flushEnded, flushing, Phase.isRunning]
  | leaves collecting =>
    have before := collecting_running collecting
    cases stage with
    | unlaunched phase => simp [phase, Phase.isRunning] at before
    | running phase receiver sender handle once =>
      refine .exited rfl ?_ ?_ once rfl rfl
      · simp [follow, exit, receiver, Holder.afterWorker]
      · simp [follow, exit, sender, Holder.afterWorker]
    | exited phase => simp [phase, Phase.isRunning] at before

theorem looks (stage : s.Stage) : Stage { s with looked := true } := by
  cases stage with
  | unlaunched phase receiver sender fresh isOpen =>
    exact .unlaunched phase receiver sender fresh isOpen
  | running phase receiver sender handle once => exact .running phase receiver sender handle once
  | exited phase receiver sender once shut empty =>
    exact .exited phase receiver sender once shut empty

theorem after (stage : s.Stage) (happens : s.after? e = some v) : v.Stage := by
  cases after_happens happens with
  | started => exact stage.started
  | asked => exact stage.asked
  | returned returns => exact stage.returned returns
  | looked _ => exact stage.looks
  | moved _ _ does _ => exact stage.did does

end Stage

theorem started_writer (stage : s.Stage) :
    s.writer.after? .startCalled = some s.start.2.writer := by
  rw [Writer.after?, Writer.start, stage.start_eq]
  split
  · rfl
  · cases s.writer.phase <;> rfl

/-- What the first call to start or stop settles: whether there is ever a worker. -/
def Settled (s : Session α) : Option Call → Prop
  | none => s.launches = 0 ∧ s.writer.stopRequested = false
  | some .start => s.launches = 1
  | some .stop => s.launches = 0 ∧ s.writer.stopRequested = true

theorem Stage.launches_eq (stage : s.Stage) :
    s.launches = if s.writer.phase matches .unlaunched then 0 else 1 := by
  cases stage with
  | unlaunched phase _ _ fresh => simp [phase, fresh]
  | running phase _ _ _ once =>
    split
    · rename_i unlaunched
      exact absurd unlaunched (running_launched phase)
    · exact once
  | exited phase _ _ once => simp [phase, once]

theorem Settled.started {first : Option Call} (settled : s.Settled first) (stage : s.Stage) :
    s.start.2.Settled (first.or (some .start)) := by
  have launches := stage.launches_eq
  rw [stage.start_eq]
  cases first with
  | none =>
    obtain ⟨fresh, unasked⟩ := settled
    rw [if_neg (by simp [unasked])]
    by_cases unlaunched : s.writer.phase matches .unlaunched
    · rw [if_pos unlaunched]
      simp [Settled, launch, fresh]
    · rw [if_neg unlaunched] at launches
      exact absurd (fresh.symm.trans launches) (by decide)
  | some call =>
    by_cases asked : s.writer.stopRequested
    · rw [if_pos asked]
      exact settled
    · rw [if_neg asked]
      by_cases unlaunched : s.writer.phase matches .unlaunched
      · rw [if_pos unlaunched] at launches
        cases call with
        | start => exact absurd (settled.symm.trans launches) (by decide)
        | stop => exact absurd settled.2 asked
      · rw [if_neg unlaunched]
        exact settled

theorem uncalled_silent {f : Writer.Event α} (uncalled : f.isCall = false) :
    (Event.writer f).call? = none := by
  cases f <;> first | rfl | cases uncalled

theorem Settled.after {first : Option Call} (settled : s.Settled first) (stage : s.Stage)
    (happens : s.after? e = some v) : v.Settled (first.or e.call?) := by
  cases after_happens happens with
  | started => exact settled.started stage
  | asked =>
    cases first with
    | none => exact ⟨settled.1, rfl⟩
    | some call =>
      cases call with
      | start => exact settled
      | stop => exact ⟨settled.1, rfl⟩
  | returned returns =>
    obtain ⟨_, _, _, rfl⟩ := returned returns
    change Settled _ (first.or none)
    rw [Option.or_none]
    exact settled
  | looked _ =>
    change Settled _ (first.or none)
    rw [Option.or_none]
    exact settled
  | moved uncalled _ does _ =>
    rw [uncalled_silent uncalled, Option.or_none]
    simpa only [Settled, follow_launches, follow_writer, does.stopRequested_eq] using settled

/-- A session that has come to `s` by `es`, and the writer in it with it. -/
structure Reached (size capacity : Nat) (s : Session α) (es : List (Event α)) : Prop where
  stage : s.Stage
  asked : 0 < s.stopping → s.writer.stopRequested = true
  settled : s.Settled (firstCall es)
  writer : (Writer.ofSize size (.ofCapacity capacity)).run? (es.filterMap Event.writer?) =
    some s.writer

theorem firstCall_snoc (es : List (Event α)) (e : Event α) :
    firstCall (es ++ [e]) = (firstCall es).or e.call? := by
  rw [firstCall, List.findSome?_append]
  congr 1
  cases here : e.call? <;> simp [here]

theorem writer_run {start w u : Writer α} {f : Writer.Event α}
    (run : start.run? (es.filterMap Event.writer?) = some w) (moved : w.after? f = some u) :
    start.run? ((es ++ [Event.writer f]).filterMap Event.writer?) = some u := by
  rw [List.filterMap_append]
  exact run_append_iff.mpr ⟨w, run, run_cons_iff.mpr ⟨u, moved, rfl⟩⟩

namespace Reached
variable {size capacity : Nat}

theorem begin (size capacity : Nat) :
    Reached size capacity (ofSize size capacity : Session α) [] where
  stage := .unlaunched rfl rfl rfl rfl rfl
  asked none := absurd none (Nat.lt_irrefl 0)
  settled := ⟨rfl, rfl⟩
  writer := rfl

theorem after (reached : Reached size capacity s es) (happens : s.after? e = some v) :
    Reached size capacity v (es ++ [e]) := by
  obtain ⟨stage, asked, settled, writer⟩ := reached
  refine ⟨stage.after happens, ?_, firstCall_snoc es e ▸ settled.after stage happens, ?_⟩
  · cases after_happens happens with
    | started =>
      rw [stage.start_eq]
      split
      · exact asked
      · split <;> exact asked
    | asked => exact fun _ => rfl
    | returned returns =>
      obtain ⟨waiting, _, _, rfl⟩ := Session.returned returns
      exact fun _ => asked waiting
    | looked _ => exact asked
    | moved _ _ does _ =>
      rw [follow_stopping, follow_writer, does.stopRequested_eq]
      exact asked
  · cases after_happens happens with
    | started => exact writer_run writer (started_writer stage)
    | asked => exact writer_run (u := s.callStop.writer) writer rfl
    | returned returns =>
      obtain ⟨_, _, _, rfl⟩ := Session.returned returns
      rw [List.filterMap_append]
      exact (List.append_nil _).symm ▸ writer
    | looked _ =>
      rw [List.filterMap_append]
      exact (List.append_nil _).symm ▸ writer
    | moved _ moves _ _ =>
      rw [follow_writer]
      exact writer_run writer moves

theorem through {fs : List (Event α)} (reached : Reached size capacity s es)
    (run : s.run? fs = some v) : Reached size capacity v (es ++ fs) :=
  run_invariant (P := Reached size capacity) after es reached run

end Reached

end Session
end AlarmHistory.Writer
