import AlarmHistory.Past.View
import Mathlib.Data.List.Sort
import Mathlib.Data.String.Basic

/- Looking back through a log that grows at its end. What is appended later carries later times,
   so a log tells the same about the past after it has grown. -/
namespace AlarmHistory.Past
variable {α β : Type} [Stamped α]

theorem earliest_stays (b : α) (log : List α)
    (later : ∀ c ∈ log, Stamped.time b ≤ Stamped.time c) :
    log.foldl earlier (some b) = some b := by
  induction log with
  | nil => rfl
  | cons c log ih =>
    simp only [List.foldl_cons, earlier, later c (by simp), ↓reduceIte]
    exact ih fun d hd => later d (by simp [hd])

theorem earliest_member {best : Option α} {log : List α} {b : α}
    (found : log.foldl earlier best = some b) : best = some b ∨ b ∈ log := by
  induction log generalizing best with
  | nil => exact Or.inl found
  | cons c log ih =>
    rcases ih found with first | later
    · cases best with
      | none => simp_all [earlier]
      | some a =>
        simp only [earlier] at first
        split at first <;> simp_all
    · exact Or.inr (List.mem_cons_of_mem c later)

theorem earliest_some (b : α) (log : List α) : (log.foldl earlier (some b)).isSome := by
  induction log generalizing b with
  | nil => rfl
  | cons c log ih =>
    simp only [List.foldl_cons, earlier]
    split
    · exact ih b
    · exact ih c

theorem first_after_member {log : List α} {time : Int64} {b : α}
    (found : firstAfter log time = some b) : b ∈ log ∧ time < Stamped.time b := by
  rcases earliest_member found with start | member
  · simp at start
  · simpa using List.mem_filter.mp member

theorem first_after_none_iff (log : List α) (time : Int64) :
    firstAfter log time = none ↔ ∀ c ∈ log, Stamped.time c ≤ time := by
  constructor
  · intro missing c member
    apply Int64.not_lt.mp
    intro after
    have kept : c ∈ log.filter fun c => time < Stamped.time c := by simp [member, after]
    unfold firstAfter at missing
    cases eq : log.filter fun c => time < Stamped.time c with
    | nil => simp [eq] at kept
    | cons d rest =>
      have found := earliest_some d rest
      rw [eq] at missing
      simp only [List.foldl_cons, earlier] at missing
      simp [missing] at found
  · intro settled
    have empty : (log.filter fun c => time < Stamped.time c) = [] := by
      simp only [List.filter_eq_nil_iff, decide_eq_true_eq, Int64.not_lt]
      exact settled
    simp [firstAfter, empty]

theorem first_after_append (log more : List α) (time : Int64)
    (later : ∀ b ∈ log, ∀ c ∈ more, Stamped.time b ≤ Stamped.time c) :
    firstAfter (log ++ more) time = (firstAfter log time).or (firstAfter more time) := by
  have split : firstAfter (log ++ more) time =
      (more.filter fun c => time < Stamped.time c).foldl earlier (firstAfter log time) := by
    simp [firstAfter]
  rw [split]
  cases found : firstAfter log time with
  | none => rfl
  | some b =>
    have member := (first_after_member found).1
    rw [Option.some_or]
    exact earliest_stays b _ fun c hc => later b member c (List.mem_filter.mp hc).1

theorem first_after_stamped (more : List α) (now time : Int64)
    (stamped : ∀ c ∈ more, Stamped.time c = now) (past : time < now) :
    firstAfter more time = more.head? := by
  cases more with
  | nil => rfl
  | cons c more =>
    have all : (c :: more).filter (fun c => time < Stamped.time c) = c :: more := by
      simp only [List.filter_eq_self, decide_eq_true_eq]
      intro d hd
      rw [stamped d hd]
      exact past
    rw [firstAfter, all, List.foldl_cons, List.head?_cons]
    apply earliest_stays c more
    intro d hd
    rw [stamped c (by simp), stamped d (by simp [hd])]
    exact Int64.le_refl now

theorem first_after_snoc (log : List α) (c : α) (time : Int64) : firstAfter (log ++ [c]) time =
    if time < Stamped.time c then earlier (firstAfter log time) c else firstAfter log time := by
  unfold firstAfter
  by_cases after : time < Stamped.time c
  · simp [after, List.filter_append]
  · simp [after, List.filter_append]

/-- What a log tells about a time: the value in its first entry after it, or the current one. -/
def told (log : List α) (time : Int64) (read : α → β) (current : β) : β :=
  ((firstAfter log time).map read).getD current

theorem told_settled (log : List α) (time : Int64) (read : α → β) (current : β)
    (settled : ∀ c ∈ log, Stamped.time c ≤ time) : told log time read current = current := by
  simp [told, (first_after_none_iff log time).mpr settled]

/-- The new entries all hold the value that was current before them, and without new entries the
    current value stays. Then the log tells the same as before about any earlier time. -/
theorem told_before (log more : List α) (now time : Int64) (read : α → β) (old new : β)
    (settled : ∀ c ∈ log, Stamped.time c ≤ now) (stamped : ∀ c ∈ more, Stamped.time c = now)
    (previous : ∀ c ∈ more, read c = old) (quiet : more = [] → new = old) (past : time < now) :
    told (log ++ more) time read new = told log time read old := by
  have later : ∀ b ∈ log, ∀ c ∈ more, Stamped.time b ≤ Stamped.time c := by
    intro b hb c hc
    rw [stamped c hc]
    exact settled b hb
  unfold told
  rw [first_after_append log more time later, first_after_stamped more now time stamped past]
  cases firstAfter log time with
  | some b => rfl
  | none =>
    cases more with
    | nil => exact quiet rfl
    | cons c more => exact previous c (by simp)

end AlarmHistory.Past

namespace AlarmHistory.AlarmView
open Past

theorem severity_told (v : AlarmView) :
    v.severity = told v.alarm.logs.severity v.time SeverityChange.severity v.alarm.severity := by
  unfold severity told
  cases firstAfter v.alarm.logs.severity v.time <;> rfl

theorem ack_user_told (v : AlarmView) :
    v.ackUser = told v.alarm.logs.ack v.time AckChange.ackUser v.alarm.ackUser := by
  unfold ackUser told
  cases firstAfter v.alarm.logs.ack v.time <;> rfl

theorem ack_time_told (v : AlarmView) :
    v.ackTime = told v.alarm.logs.ack v.time AckChange.ackTime v.alarm.ackTime := by
  unfold ackTime told
  cases firstAfter v.alarm.logs.ack v.time <;> rfl

theorem related_told (v : AlarmView) (key : String) :
    v.isRelated key = told (v.alarm.logs.related.filter fun c => c.reductionKey == key) v.time
      RelatedChange.removal (v.alarm.snapshot.currentRelatedKeys.contains key) := by
  unfold isRelated told
  cases firstAfter (v.alarm.logs.related.filter fun c => c.reductionKey == key) v.time <;> rfl

theorem insert_key_member (key other : String) (keys : List String) :
    other ∈ insertKey key keys ↔ other = key ∨ other ∈ keys := by
  induction keys with
  | nil => simp [insertKey]
  | cons k keys ih =>
    simp only [insertKey]
    split
    · simp
    · split
      · rename_i same
        simp [same]
      · simp only [List.mem_cons, ih]
        exact or_left_comm

theorem mentioned_member (v : AlarmView) (key : String) :
    key ∈ v.mentionedKeys ↔ key ∈ v.alarm.snapshot.currentRelatedKeys ∨
      ∃ c ∈ v.alarm.logs.related, c.reductionKey = key := by
  have folded : ∀ keys : List String, key ∈ keys.foldr insertKey [] ↔ key ∈ keys := by
    intro keys
    induction keys with
    | nil => rfl
    | cons k keys ih => simp [insert_key_member, ih]
  rw [mentionedKeys, folded, List.mem_append, List.mem_map]

theorem related_keys_member (v : AlarmView) (key : String) :
    key ∈ v.relatedKeys ↔ v.isRelated key = true := by
  simp only [relatedKeys, List.mem_filter, and_iff_right_iff_imp]
  intro related
  rw [mentioned_member]
  unfold isRelated at related
  split at related
  · rename_i c found
    have member := (first_after_member found).1
    simp only [List.mem_filter, beq_iff_eq] at member
    exact Or.inr ⟨c, member⟩
  · exact Or.inl (by simpa using related)

theorem insert_key_ascending (key : String) {keys : List String}
    (ascending : keys.Pairwise (· < ·)) : (insertKey key keys).Pairwise (· < ·) := by
  induction keys with
  | nil => exact List.pairwise_singleton _ key
  | cons k keys ih =>
    obtain ⟨first, rest⟩ := List.pairwise_cons.mp ascending
    simp only [insertKey]
    split
    · rename_i less
      refine List.pairwise_cons.mpr ⟨fun l member => ?_, ascending⟩
      rcases List.mem_cons.mp member with rfl | later
      · exact less
      · exact String.lt_trans less (first l later)
    · split
      · exact ascending
      · rename_i less other
        refine List.pairwise_cons.mpr ⟨fun l member => ?_, ih rest⟩
        rcases (insert_key_member key l keys).mp member with rfl | later
        · exact Std.lt_of_le_of_ne (String.not_lt.mp less) (Ne.symm other)
        · exact first l later

theorem related_keys_ascending (v : AlarmView) : v.relatedKeys.Pairwise (· < ·) := by
  have folded : ∀ keys : List String, (keys.foldr insertKey []).Pairwise (· < ·) := by
    intro keys
    induction keys with
    | nil => exact List.Pairwise.nil
    | cons k keys ih => exact insert_key_ascending k ih
  exact List.Pairwise.filter _ (folded _)

theorem related_keys_eq {v w : AlarmView} (same : ∀ key, v.isRelated key = w.isRelated key) :
    v.relatedKeys = w.relatedKeys := by
  apply v.related_keys_ascending.eq_of_mem_iff w.related_keys_ascending
  intro key
  rw [related_keys_member, related_keys_member, same]

end AlarmHistory.AlarmView

namespace AlarmHistory

/-- No view at any time tells the two documents apart. -/
structure AlarmDocument.SameViews (d e : AlarmDocument) : Prop where
  severity : ∀ time, AlarmView.severity ⟨d, time⟩ = AlarmView.severity ⟨e, time⟩
  ackUser : ∀ time, AlarmView.ackUser ⟨d, time⟩ = AlarmView.ackUser ⟨e, time⟩
  ackTime : ∀ time, AlarmView.ackTime ⟨d, time⟩ = AlarmView.ackTime ⟨e, time⟩
  relatedKeys : ∀ time, AlarmView.relatedKeys ⟨d, time⟩ = AlarmView.relatedKeys ⟨e, time⟩

end AlarmHistory
