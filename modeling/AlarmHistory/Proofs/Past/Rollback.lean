import AlarmHistory.Proofs.Past.Lookback
import Mathlib.Data.Finset.Basic
import Mathlib.Data.Finset.Dedup
import Mathlib.Data.List.Induction

/- The related alarms of a past time, found by rolling the log back: the entries after that time are
   undone one by one, the latest first. For each key the entry that is undone last decides, and that
   is the one a look back finds. -/
namespace AlarmHistory

namespace Past
variable {α : Type} [Stamped α]

def NotEarlier (c d : α) : Prop := Stamped.time d ≤ Stamped.time c

instance : DecidableRel (NotEarlier : α → α → Prop) := fun c d =>
  inferInstanceAs (Decidable (Stamped.time d ≤ Stamped.time c))

instance : IsTrans α NotEarlier := ⟨fun _ _ _ first second => Int64.le_trans second first⟩

instance : Std.Total (NotEarlier : α → α → Prop) :=
  ⟨fun c d => Int64.le_total (Stamped.time d) (Stamped.time c)⟩

/-- The entries after a time, the latest first and of those with one time the last appended first. -/
def latestFirst (log : List α) (time : Int64) : List α :=
  (log.filter fun c => time < Stamped.time c).reverse.insertionSort NotEarlier

theorem last_of_inserted {es : List α} (sorted : es.Pairwise NotEarlier) (c : α) :
    (es.orderedInsert NotEarlier c).getLast? = earlier es.getLast? c := by
  induction es with
  | nil => rfl
  | cons d es ih =>
    obtain ⟨first, rest⟩ := List.pairwise_cons.mp sorted
    rw [List.orderedInsert_cons]
    split
    · rename_i before
      have stays : NotEarlier c (es.getLast?.getD d) := by
        cases last : es.getLast? with
        | none => exact before
        | some b => exact Int64.le_trans (first b (List.mem_of_getLast? last)) before
      rw [List.getLast?_cons_cons, List.getLast?_cons]
      exact (if_pos stays).symm
    · rename_i behind
      rw [List.getLast?_cons, List.getLast?_cons, ih rest]
      cases es.getLast? with
      | none => exact (if_neg behind).symm
      | some b =>
        simp only [earlier, Option.getD_some]
        split <;> rfl

theorem filter_inserted {es : List α} (sorted : es.Pairwise NotEarlier) (keep : α → Bool) (c : α) :
    (es.orderedInsert NotEarlier c).filter keep =
      if keep c then (es.filter keep).orderedInsert NotEarlier c else es.filter keep := by
  induction es with
  | nil => cases kept : keep c <;> simp [kept]
  | cons d es ih =>
    obtain ⟨first, rest⟩ := List.pairwise_cons.mp sorted
    rw [List.orderedInsert_cons]
    split
    · rename_i before
      have all : ∀ b ∈ (d :: es).filter keep, NotEarlier c b := by
        intro b member
        rcases List.mem_cons.mp (List.mem_filter.mp member).1 with rfl | later
        · exact before
        · exact Int64.le_trans (first b later) before
      rw [List.filter_cons]
      split
      · cases kept : (d :: es).filter keep with
        | nil => rfl
        | cons b bs =>
          rw [kept] at all
          rw [List.orderedInsert_cons, if_pos (all b (by simp))]
      · rfl
    · rename_i behind
      rw [List.filter_cons, ih rest, List.filter_cons]
      cases keep c <;> cases keep d <;> simp [behind]

theorem filter_latestFirst (log : List α) (time : Int64) (keep : α → Bool) :
    (latestFirst log time).filter keep = latestFirst (log.filter keep) time := by
  have sorting (es : List α) : (es.insertionSort NotEarlier).filter keep =
      (es.filter keep).insertionSort NotEarlier := by
    induction es with
    | nil => rfl
    | cons c es ih =>
      rw [List.insertionSort_cons, filter_inserted (List.pairwise_insertionSort _ es), ih,
        List.filter_cons]
      split <;> rfl
  rw [latestFirst, sorting, List.filter_reverse, List.filter_filter, latestFirst,
    List.filter_filter]
  simp only [Bool.and_comm]

theorem latestFirst_after {log : List α} {time : Int64} {c : α} (member : c ∈ latestFirst log time) :
    time < Stamped.time c := by
  rw [latestFirst, List.mem_insertionSort, List.mem_reverse] at member
  exact of_decide_eq_true (List.mem_filter.mp member).2

theorem latestFirst_of_time (log : List α) {time t : Int64} (after : time < t) :
    (latestFirst log time).filter (fun c => Stamped.time c = t) =
      (log.filter fun c => Stamped.time c = t).reverse := by
  have all : ∀ c ∈ log.filter (fun c => Stamped.time c = t), Stamped.time c = t := fun c member =>
    by simpa using (List.mem_filter.mp member).2
  have later : (log.filter fun c => Stamped.time c = t).filter (fun c => time < Stamped.time c) =
      log.filter fun c => Stamped.time c = t :=
    List.filter_eq_self.mpr fun c member => decide_eq_true ((all c member).symm ▸ after)
  rw [filter_latestFirst, latestFirst, later]
  apply List.Pairwise.insertionSort_eq
  apply List.pairwise_of_forall_mem_list
  intro c first d second
  rw [NotEarlier, all c (List.mem_reverse.mp first), all d (List.mem_reverse.mp second)]
  exact Int64.le_refl t

theorem last_of_latestFirst (log : List α) (time : Int64) :
    (latestFirst log time).getLast? = firstAfter log time := by
  have sorting (es : List α) :
      (es.reverse.insertionSort NotEarlier).getLast? = es.foldl earlier none := by
    induction es using List.reverseRecOn with
    | nil => rfl
    | append_singleton es c ih =>
      rw [List.reverse_append, List.reverse_singleton, List.singleton_append,
        List.insertionSort_cons, last_of_inserted (List.pairwise_insertionSort _ _), ih,
        List.foldl_append]
      rfl
  exact sorting _

def undo (keys : Finset String) (c : RelatedChange) : Finset String :=
  if c.removal then insert c.reductionKey keys else keys.erase c.reductionKey

theorem undone_member (es : List RelatedChange) (keys : Finset String) (key : String) :
    key ∈ es.foldl undo keys ↔ ((es.filter fun c => c.reductionKey == key).getLast?.map
      RelatedChange.removal).getD (decide (key ∈ keys)) = true := by
  induction es using List.reverseRecOn with
  | nil => simp
  | append_singleton es c ih =>
    rw [List.foldl_append, List.foldl_cons, List.foldl_nil, List.filter_append, undo]
    by_cases here : c.reductionKey = key
    · have last : [c].filter (fun c => c.reductionKey == key) = [c] := by simp [here]
      rw [last, List.getLast?_concat]
      split
      · simp_all
      · simp_all
    · have other : [c].filter (fun c => c.reductionKey == key) = [] := by simp [here]
      rw [other, List.append_nil, ← ih]
      split
      · simp [Ne.symm here]
      · simp [Ne.symm here]

end Past

namespace AlarmView
open Past

def rolledBack (v : AlarmView) : Finset String :=
  (latestFirst v.alarm.logs.related v.time).foldl undo v.alarm.snapshot.currentRelatedKeys.toFinset

/-- What is undone are the entries after the time of the view, the latest first and those of one time
    in the reverse of their order. -/
theorem related_keys_rolled_back (v : AlarmView) :
    let undone := latestFirst v.alarm.logs.related v.time
    v.relatedKeys.toFinset = v.rolledBack ∧
      (∀ c ∈ undone, v.time < c.time) ∧
      undone.Pairwise (fun c d => d.time ≤ c.time) ∧
      ∀ t, v.time < t → undone.filter (fun c => c.time = t) =
        (v.alarm.logs.related.filter fun c => c.time = t).reverse := by
  refine ⟨?_, fun c member => latestFirst_after member, List.pairwise_insertionSort NotEarlier _,
    fun t after => latestFirst_of_time v.alarm.logs.related after⟩
  ext key
  rw [List.mem_toFinset, related_keys_member, related_told, rolledBack, undone_member,
    filter_latestFirst, last_of_latestFirst, told, List.contains_eq_mem]
  simp only [List.mem_toFinset]

end AlarmView
end AlarmHistory
