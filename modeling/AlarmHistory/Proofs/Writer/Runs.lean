import AlarmHistory.Proofs.Queue
import AlarmHistory.Writer.Basic

/- Runs of a writer and its queue, and where every accepted item is at each point of them. Producers
   offer, join and leave, and starts and stops are called, in any order. The worker moves in one go,
   or item by item with others in between; it may also hand over a batch that a stop has overtaken.
   Time itself is left out: the wait for more items may be over at any moment, and so may a flush. -/
namespace AlarmHistory.Writer
variable {α : Type}

inductive Event (α : Type) where
  | accepted (a : α)
  | refused (a : α)
  | producerAdded
  | producerDropped
  | startCalled
  | stopRequested
  | turned
  | collected
  | handedOver
  | fillExpired
  | flushEnded (failed : Option Nat)
  deriving DecidableEq, Repr

/-- The worker takes one item from the queue, the first of a batch or a further one. -/
def collect? (w : Writer α) : Option (Writer α) :=
  match w.phase, w.queue.take with
  | .waiting, (.item a, queue) => some { w with phase := .filling [a], queue }
  | .filling batch, (.item a, queue) =>
    if batch.length < w.batchSize then some { w with phase := .filling (batch ++ [a]), queue }
    else none
  | _, _ => none

def handOver? (w : Writer α) : Option (Writer α) :=
  match w.phase with
  | .filling batch => some (w.hand batch)
  | _ => none

def endFlush? (w : Writer α) (failed : Option Nat) : Option (Writer α) :=
  match w.phase with
  | .flushing _ => some (w.flushEnded failed)
  | _ => none

/-- The writer after an event, if the event can happen. Only a producer offers or brings another. -/
def after? (w : Writer α) : Event α → Option (Writer α)
  | .accepted a => if w.queue.producers = 0 then none else (w.offer a).toOption
  | .refused a => if w.queue.producers = 0 ∨ (w.offer a).isOk then none else some w
  | .producerAdded =>
    if w.queue.producers = 0 then none else some { w with queue := w.queue.addProducer }
  | .producerDropped => some w.dropProducer
  | .startCalled => some (w.start.toOption.getD w)
  | .stopRequested => some w.requestStop
  | .turned => w.turn
  | .collected => w.collect?
  | .handedOver => w.handOver?
  | .fillExpired => some w.fillExpired
  | .flushEnded failed => w.endFlush? failed

def run? (w : Writer α) (es : List (Event α)) : Option (Writer α) := es.foldlM after? w

def Event.accepted? : Event α → Option α
  | .accepted a => some a
  | _ => none

def Event.isFlushEnd : Event α → Bool
  | .flushEnded _ => true
  | _ => false

def Event.isOthers : Event α → Bool
  | .turned | .collected | .handedOver | .fillExpired => false
  | _ => true

def accepted (es : List (Event α)) : List α := es.filterMap Event.accepted?

def flushesEnded (es : List (Event α)) : Nat := es.countP Event.isFlushEnd

theorem accepted_snoc (es : List (Event α)) (e : Event α) :
    accepted (es ++ [e]) = accepted es ++ e.accepted?.toList := by
  cases given : e.accepted? <;> simp [accepted, given]

theorem flushesEnded_snoc (es : List (Event α)) (e : Event α) :
    flushesEnded (es ++ [e]) = flushesEnded es + if e.isFlushEnd then 1 else 0 := by
  simp [flushesEnded, List.countP_append, List.countP_singleton]

end AlarmHistory.Writer

namespace AlarmHistory.Phase
variable {α : Type}

def collected : Phase α → List α
  | filling batch => batch
  | _ => []

def inFlight : Phase α → Nat
  | flushing _ => 1
  | _ => 0

end AlarmHistory.Phase

namespace AlarmHistory.Writer
variable {α : Type}

/-- The worker is between two flushes. -/
def Collecting (w : Writer α) : Prop := w.phase = .waiting ∨ ∃ batch, w.phase = .filling batch

/-- Each accepted item is in a batch handed over, in the batch that is filling, in the queue, or lost
    at an exit that a stop has brought about; in this order they are the items as accepted. -/
structure Custody (size : Nat) (w : Writer α) (es : List (Event α)) (lost : List α) : Prop where
  items : w.handed.flatten ++ (w.phase.collected ++ (w.queue.waiting ++ lost)) = accepted es
  lost_at_exit : lost ≠ [] → w.phase = .exited ∧ w.stopRequested = true
  exit_closes : w.phase = .exited → w.queue.waiting = [] ∧ w.queue.isOpen = false
  sized : w.batchSize = max size 1
  handed_sized : ∀ batch ∈ w.handed, 1 ≤ batch.length ∧ batch.length ≤ w.batchSize
  filling_sized : ∀ batch, w.phase = .filling batch → 1 ≤ batch.length ∧ batch.length ≤ w.batchSize
  flights : w.handed.length = flushesEnded es + w.phase.inFlight
  stop_asked : w.stopRequested = true → .stopRequested ∈ es

def Leaves (w v : Writer α) : Prop :=
  w.Collecting ∧ (w.stopRequested = true ∨ w.phase.collected = [] ∧ w.queue.waiting = []) ∧ v = w.exit

def Collects (w v : Writer α) : Prop :=
  w.Collecting ∧ ∃ more rest, w.queue.waiting = more ++ rest ∧ (w.phase = .waiting → more ≠ []) ∧
    (w.phase.collected ++ more).length ≤ max w.batchSize (max 1 w.phase.collected.length) ∧
    v = { w with
      phase := .filling (w.phase.collected ++ more), queue := { w.queue with waiting := rest } }

def Hands (w v : Writer α) : Prop := ∃ batch, w.phase = .filling batch ∧ v = w.hand batch

/-- What an event does. A stop keeps the worker from all that it does in a turn, but not from what it
    goes on with after its look for one. -/
inductive Effect (w : Writer α) (e : Event α) : Writer α → Prop
  | accepted {a : α} (offered : e = .accepted a) (opened : w.queue.isOpen = true) :
      Effect w e { w with queue := { w.queue with waiting := w.queue.waiting ++ [a] } }
  | nothing (untaken : e.accepted? = none) (unended : e.isFlushEnd = false) : Effect w e w
  | producers (n : Nat) (counted : e = .producerAdded ∨ e = .producerDropped) :
      Effect w e { w with queue := { w.queue with producers := n } }
  | launched (called : e = .startCalled) (unlaunched : w.phase = .unlaunched) :
      Effect w e { w with phase := .waiting }
  | asked (called : e = .stopRequested) : Effect w e w.requestStop
  | leaves {v : Writer α} (work : e.isOthers = false) (leaves : w.Leaves v) : Effect w e v
  | collects {v : Writer α} (work : e.isOthers = false) (collects : w.Collects v)
      (unasked : w.stopRequested = false ∨ e = .collected) : Effect w e v
  | hands {u v : Writer α} (work : e.isOthers = false) (gathers : u = w ∨ w.Collects u)
      (hands : u.Hands v) (unasked : w.stopRequested = false ∨ u = w ∧ e = .handedOver) :
      Effect w e v
  | landed {batch : List α} {failed : Option Nat} (flushing : w.phase = .flushing batch)
      (ended : e = .flushEnded failed) : Effect w e (w.flushEnded failed)

/-- What a worker does that has to wait for nothing. -/
inductive Moves (w : Writer α) : Writer α → Prop
  | stop (collecting : w.Collecting) (stop : w.stopRequested = true) : Moves w w.exit
  | done (waiting : w.phase = .waiting) (empty : w.queue.waiting = [])
      (gone : w.queue.producers = 0) : Moves w w.exit
  | first {a : α} {queue : Queue α} (waiting : w.phase = .waiting)
      (taken : w.queue.take = (.item a, queue)) : Moves w ({ w with queue }.topUp [a])
  | more {batch : List α} (filling : w.phase = .filling batch) (room : batch.length < w.batchSize)
      (some_waiting : w.queue.waiting ≠ []) : Moves w (w.topUp batch)
  | hand {batch : List α} (filling : w.phase = .filling batch) : Moves w (w.hand batch)

theorem collecting_steady {w : Writer α} (collecting : w.Collecting) :
    w.phase.inFlight = 0 ∧ w.phase ≠ .exited := by
  rcases collecting with waiting | ⟨batch, filling⟩
  · simp [waiting, Phase.inFlight]
  · simp [filling, Phase.inFlight]

section Moves
variable {w v : Writer α}

theorem offer_taken {a : α} (ok : w.offer a = .ok v) : w.queue.isOpen = true ∧
    v = { w with queue := { w.queue with waiting := w.queue.waiting ++ [a] } } := by
  unfold offer at ok
  cases offered : w.queue.offer a with
  | error _ => simp [offered, Except.map] at ok
  | ok q =>
    obtain ⟨opened, _, rfl⟩ := Queue.offer_taken offered
    simp only [offered, Except.map, Except.ok.injEq] at ok
    exact ⟨opened, ok.symm⟩

theorem topUp_collects {batch : List α} (filling : w.phase = .filling batch) :
    w.Collects (w.topUp batch) := by
  have held : w.phase.collected = batch := by rw [filling]; rfl
  refine ⟨Or.inr ⟨batch, filling⟩, w.queue.waiting.take (w.batchSize - batch.length),
    w.queue.waiting.drop (w.batchSize - batch.length), ?_, ?_, ?_, ?_⟩
  · exact (List.take_append_drop _ _).symm
  · simp [filling]
  · simp only [held, List.length_append, List.length_take]
    omega
  · rw [held]
    rfl

theorem first_topUp_collects (waiting : w.phase = .waiting) {a : α} {queue : Queue α}
    (taken : w.queue.take = (.item a, queue)) : w.Collects ({ w with queue }.topUp [a]) := by
  obtain ⟨items, same⟩ := Queue.take_item taken
  have held : w.phase.collected = [] := by rw [waiting]; rfl
  refine ⟨Or.inl waiting, a :: queue.waiting.take (w.batchSize - 1),
    queue.waiting.drop (w.batchSize - 1), ?_, ?_, ?_, ?_⟩
  · rw [items, List.cons_append, List.take_append_drop]
  · simp
  · simp only [held, List.nil_append, List.length_cons, List.length_take]
    omega
  · rw [held, same]
    rfl

theorem turn_moves (moves : w.turn = some v) : w.Moves v := by
  unfold turn at moves
  split at moves
  · rename_i waiting
    split at moves
    · rename_i stop
      cases moves
      exact .stop (Or.inl waiting) stop
    · split at moves
      · rename_i a queue taken
        cases moves
        exact .first waiting taken
      · cases moves
      · rename_i queue taken
        cases moves
        obtain ⟨empty, gone⟩ := Queue.take_ended taken
        exact .done waiting empty gone
  · rename_i batch filling
    split at moves
    · rename_i stop
      cases moves
      exact .stop (Or.inr ⟨batch, filling⟩) stop
    · split at moves
      · cases moves
        exact .hand filling
      · rename_i room
        split at moves
        · rename_i more
          cases moves
          exact .more filling (by omega) (by simpa using more)
        · split at moves
          · cases moves
            exact .hand filling
          · cases moves
  · cases moves

theorem turn_stopped (stop : w.stopRequested = true) (moves : w.turn = some v) : w.Leaves v := by
  unfold turn at moves
  split at moves
  · rename_i waiting
    rw [if_pos stop] at moves
    cases moves
    exact ⟨Or.inl waiting, Or.inl stop, rfl⟩
  · rename_i batch filling
    rw [if_pos stop] at moves
    cases moves
    exact ⟨Or.inr ⟨batch, filling⟩, Or.inl stop, rfl⟩
  · cases moves

theorem turn_effect (moves : w.turn = some v) : w.Effect .turned v := by
  cases asked : w.stopRequested with
  | true => exact .leaves rfl (turn_stopped asked moves)
  | false =>
    cases turn_moves moves with
    | stop collecting stop => exact .leaves rfl ⟨collecting, Or.inl stop, rfl⟩
    | done waiting empty _ =>
      have nothing : w.phase.collected = [] := by rw [waiting]; rfl
      exact .leaves rfl ⟨Or.inl waiting, Or.inr ⟨nothing, empty⟩, rfl⟩
    | first waiting taken => exact .collects rfl (first_topUp_collects waiting taken) (Or.inl asked)
    | more filling _ _ => exact .collects rfl (topUp_collects filling) (Or.inl asked)
    | hand filling => exact .hands rfl (Or.inl rfl) ⟨_, filling, rfl⟩ (Or.inl asked)

theorem collect_cases (moves : w.collect? = some v) : w.Collects v := by
  unfold collect? at moves
  split at moves
  · rename_i a queue waiting taken
    obtain ⟨items, same⟩ := Queue.take_item taken
    cases moves
    refine ⟨Or.inl waiting, [a], queue.waiting, items, ?_, ?_, ?_⟩
    · simp
    · rw [waiting]
      exact Nat.le_max_right w.batchSize 1
    · rw [same, waiting]
      rfl
  · rename_i batch a queue filling taken
    obtain ⟨items, same⟩ := Queue.take_item taken
    split at moves
    · rename_i room
      cases moves
      refine ⟨Or.inr ⟨batch, filling⟩, [a], queue.waiting, items, ?_, ?_, ?_⟩
      · simp
      · simp only [filling, Phase.collected, List.length_append, List.length_singleton]
        omega
      · rw [same, filling]
        rfl
    · cases moves
  · cases moves

/-- Once the time is over, what is waiting by then still goes along. -/
theorem fillExpired_effect (w : Writer α) : w.Effect .fillExpired w.fillExpired := by
  unfold fillExpired
  split
  · rename_i batch filling
    split
    · rename_i stop
      exact .leaves rfl ⟨Or.inr ⟨batch, filling⟩, Or.inl stop, rfl⟩
    · rename_i unasked
      refine .hands rfl (Or.inr (topUp_collects filling)) ⟨_, rfl, rfl⟩ (Or.inl ?_)
      simpa using unasked
  · exact .nothing rfl rfl

theorem start_effect (w : Writer α) : w.Effect .startCalled (w.start.toOption.getD w) := by
  unfold start
  split
  · exact .nothing rfl rfl
  · split
    · rename_i unlaunched
      refine .launched rfl ?_
      cases phase : w.phase <;> simp_all
    · exact .nothing rfl rfl

theorem after_effect {e : Event α} (happens : w.after? e = some v) : w.Effect e v := by
  cases e with
  | accepted a =>
    simp only [after?] at happens
    split at happens
    · cases happens
    · cases offered : w.offer a with
      | error _ => simp [offered, Except.toOption] at happens
      | ok u =>
        simp only [offered, Except.toOption, Option.some.injEq] at happens
        obtain ⟨opened, rfl⟩ := offer_taken (happens ▸ offered)
        exact .accepted rfl opened
  | refused a =>
    simp only [after?] at happens
    split at happens
    · cases happens
    · cases happens
      exact .nothing rfl rfl
  | producerAdded =>
    simp only [after?] at happens
    split at happens
    · cases happens
    · cases happens
      exact .producers _ (Or.inl rfl)
  | producerDropped =>
    cases happens
    exact .producers _ (Or.inr rfl)
  | startCalled =>
    cases happens
    exact start_effect w
  | stopRequested =>
    cases happens
    exact .asked rfl
  | turned => exact turn_effect happens
  | collected => exact .collects rfl (collect_cases happens) (Or.inr rfl)
  | handedOver =>
    simp only [after?, handOver?] at happens
    split at happens
    · rename_i batch filling
      cases happens
      exact .hands rfl (Or.inl rfl) ⟨batch, filling, rfl⟩ (Or.inr ⟨rfl, rfl⟩)
    · cases happens
  | fillExpired =>
    cases happens
    exact fillExpired_effect w
  | flushEnded failed =>
    simp only [after?, endFlush?] at happens
    split at happens
    · rename_i batch flushing
      cases happens
      exact .landed flushing rfl
    · cases happens

theorem work_silent {e : Event α} (work : e.isOthers = false) :
    e.accepted? = none ∧ e.isFlushEnd = false := by
  cases e <;> first | exact ⟨rfl, rfl⟩ | cases work

end Moves

namespace Custody
variable {size : Nat} {w v : Writer α} {es : List (Event α)} {lost : List α}

theorem start (size : Nat) (capacity : Nat) :
    Custody size (Writer.ofSize size (.ofCapacity capacity) : Writer α) [] [] where
  items := rfl
  lost_at_exit := by simp
  exit_closes := by simp [ofSize]
  sized := rfl
  handed_sized := by simp [ofSize]
  filling_sized := by simp [ofSize]
  flights := rfl
  stop_asked := by simp [ofSize]

theorem roomy (held : Custody size w es lost) : 1 ≤ w.batchSize := by
  rw [held.sized]
  omega

theorem nothing_lost (held : Custody size w es lost) (running : w.phase ≠ .exited) : lost = [] := by
  by_contra some_lost
  exact running (held.lost_at_exit some_lost).1

theorem leaves (held : Custody size w es lost) (leaves : w.Leaves v) :
    ∃ lost, Custody size v es lost := by
  obtain ⟨collecting, why, rfl⟩ := leaves
  obtain ⟨landed, running⟩ := collecting_steady collecting
  have items := held.items
  have flights := held.flights
  rw [held.nothing_lost running] at items
  rw [landed] at flights
  refine ⟨w.phase.collected ++ w.queue.waiting, ?_⟩
  constructor
  case items => simpa [exit, Phase.collected, Queue.dropReceiver] using items
  case lost_at_exit =>
    intro some_lost
    rcases why with stop | ⟨no_batch, no_item⟩
    · exact ⟨rfl, stop⟩
    · simp [no_batch, no_item] at some_lost
  case exit_closes => exact fun _ => ⟨rfl, rfl⟩
  case sized => exact held.sized
  case handed_sized => exact held.handed_sized
  case filling_sized => simp [exit]
  case flights => exact flights
  case stop_asked => exact held.stop_asked

theorem collected_sized (held : Custody size w es lost) (collects : w.Collects v) :
    ∀ batch, v.phase = .filling batch → 1 ≤ batch.length ∧ batch.length ≤ w.batchSize := by
  obtain ⟨collecting, more, rest, _, some_more, fits, rfl⟩ := collects
  have roomy := held.roomy
  rintro batch ⟨⟩
  rcases collecting with waiting | ⟨begun, filling⟩
  · have some_item := List.length_pos_iff.mpr (some_more waiting)
    simp only [waiting, Phase.collected, List.nil_append, List.length_nil] at fits ⊢
    omega
  · obtain ⟨some_item, within⟩ := held.filling_sized begun filling
    simp only [filling, Phase.collected, List.length_append] at fits ⊢
    omega

theorem collects (held : Custody size w es lost) (collects : w.Collects v) :
    Custody size v es lost := by
  have sized := held.collected_sized collects
  obtain ⟨collecting, more, rest, waiting, _, _, rfl⟩ := collects
  obtain ⟨landed, running⟩ := collecting_steady collecting
  have flights := held.flights
  rw [landed] at flights
  constructor
  case items => simpa [Phase.collected, waiting] using held.items
  case lost_at_exit => exact fun some_lost => absurd (held.lost_at_exit some_lost).1 running
  case exit_closes => simp
  case sized => exact held.sized
  case handed_sized => exact held.handed_sized
  case filling_sized => exact sized
  case flights => exact flights
  case stop_asked => exact held.stop_asked

theorem hands (held : Custody size w es lost) (hands : w.Hands v) : Custody size v es lost := by
  obtain ⟨batch, filling, rfl⟩ := hands
  have items := held.items
  have flights := held.flights
  constructor
  case items => simpa [hand, Phase.collected, filling] using items
  case lost_at_exit =>
    intro some_lost
    simpa [filling] using (held.lost_at_exit some_lost).1
  case exit_closes => simp [hand]
  case sized => exact held.sized
  case handed_sized =>
    intro other member
    rcases List.mem_append.mp member with before | here
    · exact held.handed_sized other before
    · rw [List.mem_singleton.mp here]
      exact held.filling_sized batch filling
  case filling_sized => simp [hand]
  case flights => simpa [hand, Phase.inFlight, filling] using flights
  case stop_asked => exact held.stop_asked

theorem flushed (held : Custody size w es lost) {batch : List α}
    (flushing : w.phase = .flushing batch) (failed : Option Nat) :
    Custody size (w.flushEnded failed) (es ++ [.flushEnded failed]) lost := by
  have items := held.items
  have flights := held.flights
  simp only [flushEnded, flushing]
  constructor
  case items =>
    rw [accepted_snoc]
    simpa [Event.accepted?, Phase.collected, flushing] using items
  case lost_at_exit =>
    intro some_lost
    simpa [flushing] using (held.lost_at_exit some_lost).1
  case exit_closes => simp
  case sized => exact held.sized
  case handed_sized => exact held.handed_sized
  case filling_sized => simp
  case flights =>
    rw [flushesEnded_snoc]
    simpa [Event.isFlushEnd, Phase.inFlight, flushing] using flights
  case stop_asked => exact fun stop => List.mem_append_left _ (held.stop_asked stop)

theorem accepts (held : Custody size w es lost) (opened : w.queue.isOpen = true) (a : α) :
    Custody size { w with queue := { w.queue with waiting := w.queue.waiting ++ [a] } }
      (es ++ [.accepted a]) lost := by
  have running : w.phase ≠ .exited := by
    intro exited
    simp [(held.exit_closes exited).2] at opened
  have none_lost := held.nothing_lost running
  have items := held.items
  constructor
  case items =>
    rw [none_lost] at items ⊢
    rw [accepted_snoc, ← items]
    simp [Event.accepted?]
  case lost_at_exit => exact fun some_lost => absurd none_lost some_lost
  case exit_closes => exact fun exited => absurd exited running
  case sized => exact held.sized
  case handed_sized => exact held.handed_sized
  case filling_sized => exact held.filling_sized
  case flights =>
    rw [flushesEnded_snoc]
    exact held.flights
  case stop_asked => exact fun stop => List.mem_append_left _ (held.stop_asked stop)

theorem quiet (held : Custody size w es lost) {e : Event α} (untaken : e.accepted? = none)
    (unended : e.isFlushEnd = false) : Custody size w (es ++ [e]) lost where
  items := by rw [accepted_snoc, untaken, held.items, Option.toList_none, List.append_nil]
  lost_at_exit := held.lost_at_exit
  exit_closes := held.exit_closes
  sized := held.sized
  handed_sized := held.handed_sized
  filling_sized := held.filling_sized
  flights := by
    rw [flushesEnded_snoc, unended]
    exact held.flights
  stop_asked stop := List.mem_append_left _ (held.stop_asked stop)

theorem asked (held : Custody size w es lost) :
    Custody size w.requestStop (es ++ [.stopRequested]) lost where
  items := (held.quiet (e := .stopRequested) rfl rfl).items
  lost_at_exit some_lost := ⟨(held.lost_at_exit some_lost).1, rfl⟩
  exit_closes := held.exit_closes
  sized := held.sized
  handed_sized := held.handed_sized
  filling_sized := held.filling_sized
  flights := (held.quiet (e := .stopRequested) rfl rfl).flights
  stop_asked _ := by simp

theorem producers (held : Custody size w es lost) (n : Nat) :
    Custody size { w with queue := { w.queue with producers := n } } es lost where
  items := held.items
  lost_at_exit := held.lost_at_exit
  exit_closes := held.exit_closes
  sized := held.sized
  handed_sized := held.handed_sized
  filling_sized := held.filling_sized
  flights := held.flights
  stop_asked := held.stop_asked

theorem launched (held : Custody size w es lost) (unlaunched : w.phase = .unlaunched) :
    Custody size { w with phase := .waiting } es lost where
  items := by simpa [unlaunched, Phase.collected] using held.items
  lost_at_exit some_lost := by simpa [unlaunched] using (held.lost_at_exit some_lost).1
  exit_closes := by simp
  sized := held.sized
  handed_sized := held.handed_sized
  filling_sized := by simp
  flights := by simpa [unlaunched, Phase.inFlight] using held.flights
  stop_asked := held.stop_asked

theorem after (held : Custody size w es lost) {e : Event α} (happens : w.after? e = some v) :
    ∃ lost, Custody size v (es ++ [e]) lost := by
  cases after_effect happens with
  | accepted offered opened => exact ⟨lost, offered ▸ held.accepts opened _⟩
  | nothing untaken unended => exact ⟨lost, held.quiet untaken unended⟩
  | producers n counted => rcases counted with rfl | rfl <;> exact ⟨lost, (held.producers n).quiet rfl rfl⟩
  | launched called unlaunched => exact ⟨lost, called ▸ (held.launched unlaunched).quiet rfl rfl⟩
  | asked called => exact ⟨lost, called ▸ held.asked⟩
  | leaves work leaves =>
    obtain ⟨untaken, unended⟩ := work_silent work
    obtain ⟨gone, left⟩ := held.leaves leaves
    exact ⟨gone, left.quiet untaken unended⟩
  | collects work collects _ =>
    obtain ⟨untaken, unended⟩ := work_silent work
    exact ⟨lost, (held.collects collects).quiet untaken unended⟩
  | hands work gathers hands _ =>
    obtain ⟨untaken, unended⟩ := work_silent work
    rcases gathers with rfl | collects
    · exact ⟨lost, (held.hands hands).quiet untaken unended⟩
    · exact ⟨lost, ((held.collects collects).hands hands).quiet untaken unended⟩
  | landed flushing ended => exact ⟨lost, ended ▸ held.flushed flushing _⟩

theorem through (held : Custody size w es lost) {fs : List (Event α)} (run : w.run? fs = some v) :
    ∃ lost, Custody size v (es ++ fs) lost := by
  refine run_invariant (P := fun w es => ∃ lost, Custody size w es lost) ?_ es ⟨lost, held⟩ run
  rintro w v es e ⟨lost, held⟩ happens
  exact held.after happens

end Custody

end AlarmHistory.Writer
