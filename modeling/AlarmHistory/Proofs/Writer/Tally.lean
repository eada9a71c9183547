import AlarmHistory.Proofs.Writer.Runs
import Mathlib.Algebra.BigOperators.Group.List.Basic
import Mathlib.Algebra.Ring.Nat

/- What the counters of a writer say. They account for the flushes that have ended: how many there
   were, how many of them failed, and how many items went in, all but those that the store named. A
   store may name more items than it was given; no more than the whole batch counts as not written. -/
namespace AlarmHistory

def Phase.outgoing? : Phase α → Option (List α)
  | flushing batch => some batch
  | _ => none

namespace Writer
variable {α : Type}

/-- A flush that has ended. If it failed, the store has named so many items that it did not take. -/
structure Flush (α : Type) where
  batch : List α
  failed : Option Nat
  deriving DecidableEq, Repr

namespace Flush

def unwritten (f : Flush α) : Nat := min f.batch.length (f.failed.getD 0)

def written (f : Flush α) : Nat := f.batch.length - f.unwritten

theorem written_and_unwritten (f : Flush α) : f.written + f.unwritten = f.batch.length :=
  Nat.sub_add_cancel (Nat.min_le_left _ _)

end Flush

def endedBy? (w : Writer α) : Event α → Option (Flush α)
  | .flushEnded failed => w.phase.outgoing?.map fun batch => ⟨batch, failed⟩
  | _ => none

/-- The flushes that end in a run, as far as the run can happen. -/
def flushes (w : Writer α) : List (Event α) → List (Flush α)
  | [] => []
  | e :: es => (w.endedBy? e).toList ++
    match w.after? e with
    | some v => v.flushes es
    | none => []

section Step
variable {w v : Writer α} {e : Event α} {es fs : List (Event α)}

theorem flushes_cons (happens : w.after? e = some v) :
    w.flushes (e :: es) = (w.endedBy? e).toList ++ v.flushes es := by
  simp only [flushes, happens]

theorem flushes_append (run : w.run? es = some v) :
    w.flushes (es ++ fs) = w.flushes es ++ v.flushes fs := by
  induction es generalizing w with
  | nil =>
    cases run
    rfl
  | cons e es ih =>
    obtain ⟨u, happens, rest⟩ := run_cons_iff.mp run
    rw [List.cons_append, flushes_cons happens, flushes_cons happens, ih rest, List.append_assoc]

theorem outgoing_iff {batch : List α} :
    w.phase.outgoing? = some batch ↔ w.phase = .flushing batch := by
  cases w.phase <;> simp [Phase.outgoing?]

theorem flush_ends {batch : List α} (flushing : w.phase = .flushing batch) (failed : Option Nat) :
    w.after? (.flushEnded failed) = some (w.flushEnded failed) ∧
      w.endedBy? (.flushEnded failed) = some ⟨batch, failed⟩ := by
  simp [after?, endFlush?, endedBy?, flushing, Phase.outgoing?]

theorem ends_nothing (unended : e.isFlushEnd = false) : w.endedBy? e = none := by
  cases e <;> first | rfl | cases unended

theorem outgoing_collecting (collecting : w.Collecting) : w.phase.outgoing? = none := by
  rcases collecting with waiting | ⟨batch, filling⟩
  · rw [waiting]
    rfl
  · rw [filling]
    rfl

structure Idles (w v : Writer α) : Prop where
  stats : v.stats = w.stats
  handed : v.handed = w.handed
  outgoing : v.phase.outgoing? = w.phase.outgoing?

structure Sends (w v : Writer α) (batch : List α) : Prop where
  stats : v.stats = w.stats
  handed : v.handed = w.handed ++ [batch]
  before : w.phase.outgoing? = none
  outgoing : v.phase.outgoing? = some batch

/-- What an event means to the batch that is with the store. -/
inductive Flight (w v : Writer α) (e : Event α) : Prop where
  | idles (idle : w.Idles v) (unended : e.isFlushEnd = false)
  | sends {batch : List α} (sent : w.Sends v batch) (unended : e.isFlushEnd = false)
  | ends {batch : List α} {failed : Option Nat} (flushing : w.phase = .flushing batch)
      (ended : e = .flushEnded failed) (counted : v = w.flushEnded failed)

theorem after_flight (happens : w.after? e = some v) : w.Flight v e := by
  cases after_effect happens with
  | accepted offered _ => exact .idles ⟨rfl, rfl, rfl⟩ (offered ▸ rfl)
  | nothing _ unended => exact .idles ⟨rfl, rfl, rfl⟩ unended
  | producers n counted =>
    exact .idles ⟨rfl, rfl, rfl⟩ (by rcases counted with rfl | rfl <;> rfl)
  | launched called unlaunched =>
    refine .idles ⟨rfl, rfl, ?_⟩ (called ▸ rfl)
    rw [unlaunched]
    rfl
  | asked called => exact .idles ⟨rfl, rfl, rfl⟩ (called ▸ rfl)
  | leaves work leaves =>
    obtain ⟨collecting, _, rfl⟩ := leaves
    exact .idles ⟨rfl, rfl, (outgoing_collecting collecting).symm⟩ (work_silent work).2
  | collects work collects _ =>
    obtain ⟨collecting, _, _, _, _, _, rfl⟩ := collects
    exact .idles ⟨rfl, rfl, (outgoing_collecting collecting).symm⟩ (work_silent work).2
  | hands work gathers hands _ =>
    obtain ⟨batch, filling, rfl⟩ := hands
    rcases gathers with rfl | ⟨collecting, _, _, _, _, _, rfl⟩
    · exact .sends ⟨rfl, rfl, outgoing_collecting (Or.inr ⟨batch, filling⟩), rfl⟩ (work_silent work).2
    · exact .sends ⟨rfl, rfl, outgoing_collecting collecting, rfl⟩ (work_silent work).2
  | landed flushing ended => exact .ends flushing ended rfl

end Step

theorem flushes_count {w v : Writer α} {es : List (Event α)} (run : w.run? es = some v) :
    (w.flushes es).length = flushesEnded es := by
  induction es generalizing w with
  | nil => rfl
  | cons e es ih =>
    obtain ⟨u, happens, rest⟩ := run_cons_iff.mp run
    rw [flushes_cons happens, List.length_append, ih rest, flushesEnded, flushesEnded,
      List.countP_cons]
    cases after_flight happens with
    | idles _ unended | sends _ unended => simp [ends_nothing unended, unended]
    | ends flushing ended _ =>
      rw [ended, (flush_ends flushing _).2]
      simp [Event.isFlushEnd, Nat.add_comm]

/-- The counters of a writer account for these flushes, and all that has gone out besides them is
    with the store still. -/
structure Tallied (w : Writer α) (ended : List (Flush α)) : Prop where
  batches : w.stats.batches = ended.length
  failures : w.stats.failures = ended.countP fun f => f.failed.isSome
  items : w.stats.items = (ended.map Flush.written).sum
  handed : w.handed = ended.map Flush.batch ++ w.phase.outgoing?.toList

namespace Tallied
variable {w v : Writer α} {e : Event α} {es : List (Event α)} {ended : List (Flush α)}

theorem start (size capacity : Nat) :
    Tallied (Writer.ofSize size (.ofCapacity capacity) : Writer α) [] where
  batches := rfl
  failures := rfl
  items := rfl
  handed := rfl

theorem idles (tallied : w.Tallied ended) (idle : w.Idles v) : v.Tallied ended where
  batches := by rw [idle.stats, tallied.batches]
  failures := by rw [idle.stats, tallied.failures]
  items := by rw [idle.stats, tallied.items]
  handed := by rw [idle.handed, idle.outgoing, tallied.handed]

theorem sends (tallied : w.Tallied ended) {batch : List α} (sent : w.Sends v batch) :
    v.Tallied ended where
  batches := by rw [sent.stats, tallied.batches]
  failures := by rw [sent.stats, tallied.failures]
  items := by rw [sent.stats, tallied.items]
  handed := by
    have before := tallied.handed
    rw [sent.before, Option.toList_none, List.append_nil] at before
    rw [sent.handed, sent.outgoing, before]
    rfl

theorem flushed (tallied : w.Tallied ended) {batch : List α} (flushing : w.phase = .flushing batch)
    (failed : Option Nat) : (w.flushEnded failed).Tallied (ended ++ [⟨batch, failed⟩]) := by
  have counted : batch.length - failed.getD 0 = (⟨batch, failed⟩ : Flush α).written := by
    simp only [Flush.written, Flush.unwritten]
    omega
  have handed := tallied.handed
  simp only [flushEnded, flushing]
  constructor
  case batches => simp [tallied.batches]
  case failures => simp [tallied.failures, List.countP_append, List.countP_singleton]
  case items => simp [tallied.items, counted]
  case handed => simpa [flushing, Phase.outgoing?] using handed

theorem after (tallied : w.Tallied ended) (happens : w.after? e = some v) :
    v.Tallied (ended ++ (w.endedBy? e).toList) := by
  cases after_flight happens with
  | idles idle unended =>
    rw [ends_nothing unended, Option.toList_none, List.append_nil]
    exact tallied.idles idle
  | sends sent unended =>
    rw [ends_nothing unended, Option.toList_none, List.append_nil]
    exact tallied.sends sent
  | ends flushing ended counted =>
    rw [counted, ended, (flush_ends flushing _).2]
    exact tallied.flushed flushing _

theorem through (tallied : w.Tallied ended) (run : w.run? es = some v) :
    v.Tallied (ended ++ w.flushes es) := by
  induction es generalizing w ended with
  | nil =>
    cases run
    simpa [flushes] using tallied
  | cons e es ih =>
    obtain ⟨u, happens, rest⟩ := run_cons_iff.mp run
    rw [flushes_cons happens, ← List.append_assoc]
    exact ih (tallied.after happens) rest

theorem items_and_unwritten (tallied : w.Tallied ended) :
    w.stats.items + (ended.map Flush.unwritten).sum =
      (ended.map fun f => f.batch.length).sum := by
  rw [tallied.items, ← List.sum_map_add]
  simp only [Flush.written_and_unwritten]

end Tallied
end Writer
end AlarmHistory
