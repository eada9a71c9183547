import AlarmHistory.Archiver
import AlarmHistory.Proofs.Lifecycle.Reconstruction
import AlarmHistory.Proofs.Queue

/- What an archiver does with the reports it hears, in any order and with its clock moved in between.
   A report that cannot be recorded leaves no trace. Any other one makes a document with the clock's
   time in all its stamps, and the queue takes the document or refuses it. Nothing that was heard
   before is found in a document, but for the summary of its node. -/
namespace AlarmHistory

namespace Queue
variable {α : Type}

def offered (q : Queue α) (a : α) : Queue α := (q.offer a).toOption.getD q

theorem offered_eq (q : Queue α) (a : α) : q.offered a =
    if q.isOpen = true ∧ q.length < q.capacity then { q with waiting := q.waiting ++ [a] }
    else q := by
  rw [offered, offer_cases]
  by_cases shut : q.isOpen = false
  · simp [shut, Except.toOption]
  · by_cases room : q.length < q.capacity <;> simp [shut, room, Except.toOption]

theorem offered_many (q : Queue α) (as : List α) : as.foldl offered q =
    if q.isOpen then { q with waiting := q.waiting ++ as.take (q.capacity - q.length) }
    else q := by
  induction as generalizing q with
  | nil => simp
  | cons a as ih =>
    rw [List.foldl_cons]
    by_cases takes : q.isOpen = true ∧ q.length < q.capacity
    · have left : q.capacity - q.length = q.capacity - (q.length + 1) + 1 := by omega
      have one_more : (q.waiting ++ [a]).length = q.length + 1 := by simp [length]
      rw [offered_eq, if_pos takes, ih]
      simp only [takes.1, if_true, left, List.take_succ_cons]
      rw [length, one_more, List.append_assoc, List.singleton_append]
    · rw [offered_eq, if_neg takes, ih]
      by_cases opened : q.isOpen = true
      · have left : q.capacity - q.length = 0 := by
          have no_room : ¬q.length < q.capacity := fun room => takes ⟨opened, room⟩
          omega
        simp [left]
      · simp [opened]

end Queue

def ChangeLogs.stamps (logs : ChangeLogs) : List Int64 :=
  logs.severity.map (·.time) ++ logs.ack.map (·.time) ++ logs.memo.map (·.time) ++
    logs.related.map (·.time)

/-- All times that an archiver puts into a document by itself. -/
def AlarmDocument.stamps (d : AlarmDocument) : List Int64 :=
  d.header.updateTime ::
    (d.logs.stamps ++ d.snapshot.archivedTime.toList ++ d.snapshot.deletedTime.toList)

def AlarmDocument.withoutNode (d : AlarmDocument) : AlarmDocument :=
  { d with snapshot := { d.snapshot with node := none } }

/-- No document can be made of it, or none is wanted. -/
def Report.isVoid : Report → Bool
  | .happened _ alarm => alarm.reductionKey == "" || alarm.lastEventTime < alarm.firstEventTime
  | .automation _ _ => true

def Report.document? (now : Int64) : Report → Option AlarmDocument
  | .happened t alarm =>
    if (Report.happened t alarm).isVoid then none else some (Callback.patch ⟨t, alarm, now⟩ none)
  | .automation _ _ => none

inductive ClockMove where
  | set (time : Int64)
  | advance (ms : UInt64)
  | reset
  deriving DecidableEq, Repr

def Clock.move (c : Clock) : ClockMove → Clock
  | .set time => c.set time
  | .advance ms => c.advance ms
  | .reset => c.reset

namespace Archiver

inductive Step where
  | report (r : Report)
  | clockMoved (m : ClockMove)
  deriving Repr

def step (a : Archiver) : Step → Archiver
  | .report r => a.hear r
  | .clockMoved m => { a with clock := a.clock.move m }

def run (a : Archiver) (ss : List Step) : Archiver := ss.foldl step a

def Step.clock (c : Clock) : Step → Clock
  | .report _ => c
  | .clockMoved m => c.move m

def Step.document? (c : Clock) : Step → Option AlarmDocument
  | .report r => r.document? c.now
  | .clockMoved _ => none

/-- The documents of the reports, each as of the clock's time at its report and without a node. -/
def documents (c : Clock) : List Step → List AlarmDocument
  | [] => []
  | s :: ss => (s.document? c).toList ++ documents (s.clock c) ss

def queue (a : Archiver) : Queue AlarmDocument := a.timeline.writer.queue

def withQueue (a : Archiver) (q : Queue AlarmDocument) : Archiver :=
  { a with timeline := { a.timeline with writer := { a.timeline.writer with queue := q } } }

end Archiver

theorem rejected_iff_void (t : Transition) (alarm : Alarm) :
    alarm.rejection?.isSome = (Report.happened t alarm).isVoid := by
  unfold Alarm.rejection? Report.isVoid
  by_cases nameless : alarm.reductionKey = ""
  · simp [nameless]
  · by_cases backwards : alarm.lastEventTime < alarm.firstEventTime
    · simp [nameless, backwards]
    · simp [nameless, backwards]

theorem patch_without_node (c : Callback) (node : Option NodeSummary) :
    (c.patch node).withoutNode = c.patch none := by
  obtain ⟨t, alarm, now⟩ := c
  cases t with
  | memoUpdated kind | memoDeleted kind => cases kind <;> rfl
  | _ => rfl

theorem reduction_stamped (before after : Alarm) (now : Int64) :
    ∀ time ∈ (Transition.reductionLogs before after now).stamps, time = now := by
  intro time member
  simp only [ChangeLogs.stamps, List.mem_append, List.mem_map] at member
  rcases member with ((⟨c, logged, rfl⟩ | ⟨c, logged, rfl⟩) | ⟨c, logged, rfl⟩) | ⟨c, logged, rfl⟩
  · rw [(reduction_severities now before after).1 c logged]
    rfl
  · rw [(reduction_acks now before after).1 c logged]
  · cases logged
  · exact Lifecycle.related_change_stamped c logged

theorem logs_stamped (t : Transition) (alarm : Alarm) (now : Int64) :
    ∀ time ∈ (t.logs alarm now).stamps, time = now := by
  cases t with
  | reduced before => exact reduction_stamped before alarm now
  | relatedUpdated previous =>
    intro time member
    obtain ⟨c, logged, rfl⟩ := List.mem_map.mp member
    exact Lifecycle.related_change_stamped c logged
  | _ => simp [Transition.logs, ChangeLogs.stamps, SeverityChange.ofPrevious]

theorem patch_stamped (c : Callback) (node : Option NodeSummary) :
    ∀ time ∈ (c.patch node).stamps, time = c.time := by
  obtain ⟨t, alarm, now⟩ := c
  intro time member
  simp only [AlarmDocument.stamps, List.mem_append, List.mem_cons] at member
  rcases member with updated | (logged | archived) | deleted
  · exact updated
  · exact logs_stamped t alarm now time logged
  · cases t with
    | archived key => simpa [Callback.patch, Transition.snapshot] using archived
    | memoUpdated kind | memoDeleted kind => cases kind <;> cases archived
    | _ => cases archived
  · cases t with
    | deleted => simpa [Callback.patch, Transition.snapshot] using deleted
    | memoUpdated kind | memoDeleted kind => cases kind <;> cases deleted
    | _ => cases deleted

namespace Archiver
variable {a : Archiver} {t : Transition} {alarm : Alarm}

theorem hear_void {r : Report} (void : r.isVoid = true) : a.hear r = a := by
  cases r with
  | automation alarm previous => rfl
  | happened t alarm =>
    rw [← rejected_iff_void t alarm] at void
    obtain ⟨rejection, rejected⟩ := Option.isSome_iff_exists.mp void
    simp only [hear, record, Transition.patch, rejected]

theorem hear_document (sound : (Report.happened t alarm).isVoid = false) :
    ∃ node nodes, a.hear (.happened t alarm) = { a with nodes }.withQueue
      (a.queue.offered (Callback.patch ⟨t, alarm, a.clock.now⟩ node)) := by
  obtain ⟨node, nodes, asked⟩ : ∃ node nodes, t.nodeFor alarm a.nodes = (node, nodes) :=
    ⟨_, _, rfl⟩
  have accepted : alarm.rejection? = none := by
    rwa [← rejected_iff_void, Option.isSome_eq_false_iff, Option.isNone_iff_eq_none] at sound
  have made := accepted_patch (r := ⟨t, alarm, a.clock.now⟩) accepted asked
  refine ⟨node, nodes, ?_⟩
  simp only [hear, record, made, Timeline.offer, Writer.offer, Queue.offered, queue]
  cases a.timeline.writer.queue.offer (Callback.patch ⟨t, alarm, a.clock.now⟩ node) <;> rfl

theorem step_offers (a : Archiver) (s : Step) :
    ∃ (docs : List AlarmDocument) (nodes : NodeCache),
      docs.map AlarmDocument.withoutNode = (s.document? a.clock).toList ∧
      a.step s = { a with clock := s.clock a.clock, nodes }.withQueue
        (docs.foldl Queue.offered a.queue) := by
  cases s with
  | clockMoved m => exact ⟨[], a.nodes, rfl, rfl⟩
  | report r =>
    cases r with
    | automation alarm previous => exact ⟨[], a.nodes, rfl, rfl⟩
    | happened t alarm =>
      cases void : (Report.happened t alarm).isVoid with
      | true =>
        refine ⟨[], a.nodes, ?_, hear_void void⟩
        rw [Step.document?, Report.document?, if_pos void]
        rfl
      | false =>
        obtain ⟨node, nodes, heard⟩ := hear_document (a := a) void
        refine ⟨[Callback.patch ⟨t, alarm, a.clock.now⟩ node], nodes, ?_, heard⟩
        rw [Step.document?, Report.document?, void, List.map_singleton, patch_without_node]
        rfl

theorem run_offers (a : Archiver) (ss : List Step) :
    ∃ (docs : List AlarmDocument) (nodes : NodeCache),
      docs.map AlarmDocument.withoutNode = documents a.clock ss ∧
      a.run ss = { a with clock := ss.foldl Step.clock a.clock, nodes }.withQueue
        (docs.foldl Queue.offered a.queue) := by
  induction ss generalizing a with
  | nil => exact ⟨[], a.nodes, rfl, rfl⟩
  | cons s ss ih =>
    obtain ⟨first, cache, made, stepped⟩ := a.step_offers s
    obtain ⟨docs, nodes, later, run⟩ := ih (a.step s)
    have clock : (a.step s).clock = s.clock a.clock := by
      rw [stepped]
      rfl
    refine ⟨first ++ docs, nodes, ?_, ?_⟩
    · rw [List.map_append, made, later, clock, documents]
    · rw [List.foldl_append]
      refine Eq.trans run ?_
      rw [stepped]
      rfl

/-- After any run, a report that names no alarm or turns time back changes nothing, nor does one of
    an automation. Any other report offers one document, stamped by the clock and, but for its node,
    made of nothing else than the report. It comes last in the queue if there is room; if not, it is
    dropped. -/
theorem reports_all_or_nothing (a : Archiver) (ss : List Step) :
    let b := a.run ss
    (∃ (docs : List AlarmDocument) (nodes : NodeCache),
      docs.map AlarmDocument.withoutNode = documents a.clock ss ∧
      b = { a with clock := ss.foldl Step.clock a.clock, nodes }.withQueue
        (if a.queue.isOpen then
          { a.queue with
            waiting := a.queue.waiting ++ docs.take (a.queue.capacity - a.queue.length) }
        else a.queue)) ∧
      (∀ alarm previous, b.hear (.automation alarm previous) = b) ∧
      ∀ t alarm,
        (alarm.reductionKey = "" ∨ alarm.lastEventTime < alarm.firstEventTime →
          b.hear (.happened t alarm) = b) ∧
        (¬(alarm.reductionKey = "" ∨ alarm.lastEventTime < alarm.firstEventTime) →
          ∃ (doc : AlarmDocument) (nodes : NodeCache), (∀ time ∈ doc.stamps, time = b.clock.now) ∧
            doc.withoutNode = Callback.patch ⟨t, alarm, b.clock.now⟩ none ∧
            b.hear (.happened t alarm) = { b with nodes }.withQueue
              (if b.queue.isOpen = true ∧ b.queue.length < b.queue.capacity then
                { b.queue with waiting := b.queue.waiting ++ [doc] }
              else b.queue)) := by
  intro b
  refine ⟨?_, fun _ _ => rfl, ?_⟩
  · obtain ⟨docs, nodes, made, run⟩ := a.run_offers ss
    refine ⟨docs, nodes, made, ?_⟩
    rw [← Queue.offered_many]
    exact run
  · intro t alarm
    have void_iff : (Report.happened t alarm).isVoid = true ↔
        alarm.reductionKey = "" ∨ alarm.lastEventTime < alarm.firstEventTime := by
      simp [Report.isVoid]
    constructor
    · intro void
      exact hear_void (void_iff.mpr void)
    · intro sound
      rw [← void_iff, Bool.not_eq_true] at sound
      obtain ⟨node, nodes, heard⟩ := hear_document (a := b) sound
      refine ⟨_, nodes, patch_stamped ⟨t, alarm, b.clock.now⟩ node, patch_without_node _ node, ?_⟩
      rw [heard, Queue.offered_eq]

end Archiver
end AlarmHistory
