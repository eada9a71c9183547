import AlarmHistory.Proofs.Writer.Runs
import AlarmHistory.Writer.Timeline

/- A writer on a timeline. Whatever happens there as time passes is a run of the writer, and every
   step of it lowers a weight, so that the writer comes to rest. With nobody left to offer anything
   it can rest only after it has exited. -/
namespace AlarmHistory.Writer
variable {α : Type}

/-- A bound on the steps that the worker can make by itself. -/
def weight (w : Writer α) : Nat :=
  3 * w.queue.length +
    match w.phase with
    | .unlaunched | .exited => 0
    | .waiting => 1
    | .flushing _ => 2
    | .filling _ => 3

theorem exit_weight (w : Writer α) : w.exit.weight = 0 := rfl

theorem topUp_weight (w : Writer α) (batch : List α) :
    (w.topUp batch).weight = 3 * (w.queue.length - (w.batchSize - batch.length)) + 3 := by
  simp [weight, topUp, Queue.drain, Queue.length]

theorem hand_weight (w : Writer α) (batch : List α) :
    (w.hand batch).weight = 3 * w.queue.length + 2 := rfl

def Event.isWork : Event α → Bool
  | .turned | .fillExpired | .flushEnded _ => true
  | _ => false

/-- Nothing but the passing of time is needed for what follows. -/
inductive Works (w : Writer α) : Writer α → Event α → Prop
  | turned {v : Writer α} (moves : w.turn = some v) : Works w v .turned
  | expired {batch : List α} (filling : w.phase = .filling batch) : Works w w.fillExpired .fillExpired
  | landed {batch : List α} (flushing : w.phase = .flushing batch) (failed : Option Nat) :
    Works w (w.flushEnded failed) (.flushEnded failed)

section Work
variable {w v : Writer α} {e : Event α}

theorem waiting_weight (waiting : w.phase = .waiting) : w.weight = 3 * w.queue.length + 1 := by
  simp [weight, waiting]

theorem filling_weight {batch : List α} (filling : w.phase = .filling batch) :
    w.weight = 3 * w.queue.length + 3 := by
  simp [weight, filling]

theorem turn_lighter (moves : w.turn = some v) : v.weight < w.weight := by
  cases turn_moves moves with
  | stop collecting _ =>
    rw [exit_weight]
    rcases collecting with waiting | ⟨batch, filling⟩
    · rw [waiting_weight waiting]
      omega
    · rw [filling_weight filling]
      omega
  | done waiting _ _ =>
    rw [exit_weight, waiting_weight waiting]
    omega
  | first waiting taken =>
    have length := congrArg List.length (Queue.take_item taken).1
    rw [topUp_weight, waiting_weight waiting]
    simp only [Queue.length, List.length_cons] at length ⊢
    omega
  | more filling room some_waiting =>
    have length : 0 < w.queue.length := List.length_pos_iff.mpr some_waiting
    rw [topUp_weight, filling_weight filling]
    omega
  | hand filling =>
    rw [hand_weight, filling_weight filling]
    omega

theorem fillExpired_lighter {batch : List α} (filling : w.phase = .filling batch) :
    w.fillExpired.weight < w.weight := by
  rw [filling_weight filling]
  simp only [fillExpired, filling]
  split
  · rw [exit_weight]
    omega
  · have left : (w.topUp batch).queue.length ≤ w.queue.length := by
      simp [topUp, Queue.drain, Queue.length]
    change ((w.topUp batch).hand _).weight < _
    rw [hand_weight]
    omega

theorem Works.lighter (works : w.Works v e) : v.weight < w.weight := by
  cases works with
  | turned moves => exact turn_lighter moves
  | expired filling => exact fillExpired_lighter filling
  | landed flushing failed => simp [flushEnded, flushing, weight]

theorem Works.happens (works : w.Works v e) : w.after? e = some v := by
  cases works with
  | turned moves => exact moves
  | expired _ => rfl
  | landed flushing failed => simp [after?, endFlush?, flushing]

theorem Works.isWork (works : w.Works v e) : e.isWork = true := by
  cases works <;> rfl

theorem Works.keeps (works : w.Works v e) :
    v.queue.producers = w.queue.producers ∧ v.phase ≠ .unlaunched := by
  cases works with
  | turned moves =>
    cases turn_moves moves with
    | first _ taken =>
      have kept := congrArg Queue.producers (Queue.take_item taken).2
      exact ⟨kept, nofun⟩
    | _ => simp [exit, Queue.dropReceiver, topUp, Queue.drain, hand]
  | expired filling =>
    simp only [fillExpired, filling]
    split <;> simp [exit, Queue.dropReceiver, topUp, Queue.drain, hand]
  | landed flushing failed => simp [flushEnded, flushing]

end Work

theorem work_accepts_nothing {es : List (Event α)} (work : ∀ e ∈ es, e.isWork = true) :
    accepted es = [] := by
  refine List.filterMap_eq_nil_iff.mpr fun e member => ?_
  have works := work e member
  cases e <;> first | rfl | cases works

theorem turn_rests {w : Writer α} (rests : w.turn = none) (waiting : w.phase = .waiting) :
    w.stopRequested = false ∧ w.queue.waiting = [] ∧ w.queue.producers ≠ 0 := by
  simp only [turn, waiting] at rests
  split at rests
  · cases rests
  · rename_i unasked
    refine ⟨by simpa using unasked, ?_⟩
    simp only [Queue.take] at rests
    cases items : w.queue.waiting with
    | cons a rest => simp [items] at rests
    | nil =>
      refine ⟨rfl, ?_⟩
      intro gone
      simp [items, gone] at rests

end AlarmHistory.Writer

namespace AlarmHistory.Timeline
open Writer
variable {α : Type} {t u : Timeline α} {until? : Option Nat}

theorem weight_eq (t : Timeline α) : t.weight = t.writer.weight := rfl

theorem follow_writer (t : Timeline α) (w : Writer α) : (t.follow w).writer = w := by
  unfold follow
  split <;> rfl

theorem next_works (next : t.next until? = some u) : ∃ e, t.writer.Works u.writer e := by
  unfold Timeline.next at next
  split at next
  · rename_i w moves
    cases next
    rw [follow_writer]
    exact ⟨_, .turned moves⟩
  · split at next
    · unfold elapse at next
      cases phase : t.writer.phase with
      | filling batch =>
        simp only [phase, Option.some.injEq] at next
        rw [← next, follow_writer]
        exact ⟨_, .expired phase⟩
      | flushing batch =>
        simp only [phase, Option.some.injEq] at next
        rw [← next]
        exact ⟨_, .landed phase _⟩
      | _ => simp [phase] at next
    · cases next

theorem steps_rest (fuel : Nat) (enough : t.weight ≤ fuel) :
    (t.steps until? fuel).next until? = none := by
  induction fuel generalizing t with
  | zero =>
    cases next : t.next until? with
    | none => exact next
    | some u =>
      obtain ⟨e, works⟩ := next_works next
      have lighter := works.lighter
      rw [weight_eq] at enough
      omega
  | succ fuel ih =>
    simp only [steps]
    split
    · rename_i u next
      obtain ⟨e, works⟩ := next_works next
      have lighter := works.lighter
      rw [weight_eq] at enough
      exact ih (by rw [weight_eq]; omega)
    · assumption

theorem settle_rests (t : Timeline α) (until? : Option Nat) :
    (t.settle until?).next until? = none := steps_rest t.weight (Nat.le_refl _)

theorem steps_run (t : Timeline α) (until? : Option Nat) (fuel : Nat) :
    ∃ es, t.writer.run? es = some (t.steps until? fuel).writer ∧ ∀ e ∈ es, e.isWork = true := by
  induction fuel generalizing t with
  | zero => exact ⟨[], rfl, by simp⟩
  | succ fuel ih =>
    simp only [steps]
    split
    · rename_i u next
      obtain ⟨e, works⟩ := next_works next
      obtain ⟨es, run, work⟩ := ih u
      refine ⟨e :: es, run_cons_iff.mpr ⟨_, works.happens, run⟩, ?_⟩
      simpa using ⟨works.isWork, work⟩
    · exact ⟨[], rfl, by simp⟩

theorem steps_keep (t : Timeline α) (until? : Option Nat) (fuel : Nat)
    (launched : t.writer.phase ≠ .unlaunched) :
    (t.steps until? fuel).writer.queue.producers = t.writer.queue.producers ∧
      (t.steps until? fuel).writer.phase ≠ .unlaunched := by
  induction fuel generalizing t with
  | zero => exact ⟨rfl, launched⟩
  | succ fuel ih =>
    simp only [steps]
    split
    · rename_i u next
      obtain ⟨e, works⟩ := next_works next
      obtain ⟨producers, still⟩ := works.keeps
      rw [← producers]
      exact ih u still
    · exact ⟨rfl, launched⟩

theorem rest_cases (rests : t.next none = none) : t.writer.turn = none ∧
    (t.writer.phase = .unlaunched ∨ t.writer.phase = .exited ∨ t.writer.phase = .waiting) := by
  unfold Timeline.next at rests
  split at rests
  · cases rests
  · rename_i still
    refine ⟨still, ?_⟩
    simp only [Option.all_none, if_true, elapse] at rests
    cases phase : t.writer.phase with
    | unlaunched => exact Or.inl rfl
    | exited => exact Or.inr (Or.inl rfl)
    | waiting => exact Or.inr (Or.inr rfl)
    | filling batch => simp [phase] at rests
    | flushing batch => simp [phase] at rests

theorem settle_exits (t : Timeline α) (launched : t.writer.phase ≠ .unlaunched)
    (gone : t.writer.queue.producers = 0) : (t.settle none).writer.phase = .exited := by
  obtain ⟨producers, still⟩ := t.steps_keep none t.weight launched
  obtain ⟨rests, phase⟩ := rest_cases (t.settle_rests none)
  rcases phase with unlaunched | exited | waiting
  · exact absurd unlaunched still
  · exact exited
  · exact absurd (producers.trans gone) (turn_rests rests waiting).2.2

end AlarmHistory.Timeline

namespace AlarmHistory.Writer

section Run
variable {α : Type} {size capacity : Nat} {es : List (Event α)} {w : Writer α}
  (run : (Writer.ofSize size (.ofCapacity capacity)).run? es = some w)
include run

theorem unstopped_hands_all (exited : w.phase = .exited) (unasked : .stopRequested ∉ es) :
    w.handed.flatten = accepted es := by
  obtain ⟨lost, held⟩ := (Custody.start size capacity).through run
  rw [List.nil_append] at held
  have none_lost : lost = [] := by
    by_contra some_lost
    exact unasked (held.stop_asked (held.lost_at_exit some_lost).2)
  simpa [exited, Phase.collected, (held.exit_closes exited).1, none_lost] using held.items

theorem settled_hands_all (launched : w.phase ≠ .unlaunched) (unasked : .stopRequested ∉ es)
    (gone : w.queue.producers = 0) (t : Timeline α) (here : t.writer = w) :
    (t.settle none).writer.phase = .exited ∧
      (t.settle none).writer.handed.flatten = accepted es := by
  subst here
  have exited := t.settle_exits launched gone
  obtain ⟨fs, settling, work⟩ := t.steps_run none t.weight
  have whole : (Writer.ofSize size (.ofCapacity capacity)).run? (es ++ fs) =
      some (t.settle none).writer := run_append_iff.mpr ⟨_, run, settling⟩
  have still_unasked : .stopRequested ∉ es ++ fs := by
    rw [List.mem_append, not_or]
    exact ⟨unasked, fun asked => Bool.false_ne_true (work _ asked)⟩
  refine ⟨exited, ?_⟩
  rw [unstopped_hands_all whole exited still_unasked, accepted, List.filterMap_append]
  exact (congrArg (accepted es ++ ·) (work_accepts_nothing work)).trans (List.append_nil _)

/-- Batches go out in the order of acceptance, none too small or too large and one at a time, and
    until the worker leaves, what is not handed over is with it or in the queue. A worker that leaves
    without having been stopped has handed over everything, and with nobody left to offer anything it
    does leave, however long its flushes take and whichever of them fail. -/
theorem handed_in_order :
    w.handed.flatten <+: accepted es ∧
      (w.phase ≠ .exited →
        w.handed.flatten ++ (w.phase.collected ++ w.queue.waiting) = accepted es) ∧
      (∀ batch ∈ w.handed, 1 ≤ batch.length ∧ batch.length ≤ max size 1) ∧
      (flushesEnded es ≤ w.handed.length ∧ w.handed.length ≤ flushesEnded es + 1) ∧
      (w.phase = .exited → .stopRequested ∉ es → w.handed.flatten = accepted es) ∧
      (w.phase ≠ .unlaunched → .stopRequested ∉ es → w.queue.producers = 0 →
        ∀ t : Timeline α, t.writer = w → (t.settle none).writer.phase = .exited ∧
          (t.settle none).writer.handed.flatten = accepted es) := by
  obtain ⟨lost, held⟩ := (Custody.start size capacity).through run
  rw [List.nil_append] at held
  refine ⟨⟨_, held.items⟩, ?_, ?_, ?_, unstopped_hands_all run, settled_hands_all run⟩
  · intro running
    simpa [held.nothing_lost running] using held.items
  · rw [← held.sized]
    exact held.handed_sized
  · have flights := held.flights
    have one : w.phase.inFlight ≤ 1 := by cases w.phase <;> simp [Phase.inFlight]
    omega

end Run

/-- A full batch fails while a third item comes in and a fourth is refused; then all producers leave.
    However much time the rest takes, the third item goes out in a batch of its own. -/
theorem third_item_in_order :
    let es : List (Event Nat) := [.accepted 1, .startCalled, .collected, .accepted 2, .collected,
      .producerAdded, .accepted 3, .turned, .refused 4, .producerDropped, .producerDropped,
      .flushEnded (some 2)]
    let w : Writer Nat :=
      { batchSize := 2, queue := ⟨1, [3], 0, true⟩, phase := .waiting, handed := [[1, 2]]
        stats := ⟨1, 0, 1⟩ }
    (Writer.ofSize 2 (.ofCapacity 1)).run? es = some w ∧
      w.handed.flatten <+: accepted es ∧
      (∀ batch ∈ w.handed, 1 ≤ batch.length ∧ batch.length ≤ max 2 1) ∧
      (flushesEnded es ≤ w.handed.length ∧ w.handed.length ≤ flushesEnded es + 1) ∧
      ∀ t : Timeline Nat, t.writer = w → (t.settle none).writer.phase = .exited ∧
        (t.settle none).writer.handed.flatten = [1, 2, 3] := by
  intro es w
  have run : (Writer.ofSize 2 (.ofCapacity 1)).run? es = some w := by decide
  obtain ⟨in_order, _, sized, flights, _, settles⟩ := handed_in_order run
  exact ⟨run, in_order, sized, flights, settles (by decide) (by decide) rfl⟩

end AlarmHistory.Writer
