import AlarmHistory.Past.Table
import Mathlib.Data.List.Basic

/- The alarms of a past time in their order: the oldest first, and of one age as they stand in the
   table. The first one that is wanted is then the oldest that is wanted. -/
namespace AlarmHistory

namespace AlarmDocument

def born (d : AlarmDocument) : Int64 := d.header.firstEventTime

/-- Born by then, and not deleted before or at that time. -/
def AliveAt (d : AlarmDocument) (time : Int64) : Prop :=
  d.born ≤ time ∧ ∀ deleted ∈ d.snapshot.deletedTime, time < deleted

instance (d : AlarmDocument) (time : Int64) : Decidable (d.AliveAt time) :=
  inferInstanceAs (Decidable (_ ∧ _))

theorem exists_iff_alive (d : AlarmDocument) (time : Int64) :
    d.existsAt time = true ↔ d.AliveAt time := by
  unfold existsAt AliveAt born
  cases d.snapshot.deletedTime <;> simp

def notYounger (d e : AlarmDocument) : Bool := decide (d.born ≤ e.born)

theorem notYounger_trans (c d e : AlarmDocument) (first : c.notYounger d = true)
    (second : d.notYounger e = true) : c.notYounger e = true := by
  simp only [notYounger, decide_eq_true_eq] at first second ⊢
  exact Int64.le_trans first second

theorem notYounger_total (d e : AlarmDocument) : (d.notYounger e || e.notYounger d) = true := by
  simp only [notYounger, Bool.or_eq_true, decide_eq_true_eq]
  exact Int64.le_total d.born e.born

end AlarmDocument
open AlarmDocument

/-- The oldest document of a list among those wanted; of one age, the one that stands first. -/
def Oldest (wanted : AlarmDocument → Prop) (docs : List AlarmDocument) (d : AlarmDocument) : Prop :=
  ∃ before after, docs = before ++ d :: after ∧ wanted d ∧
    (∀ e ∈ before, wanted e → d.born < e.born) ∧ ∀ e ∈ after, wanted e → d.born ≤ e.born

theorem oldest_iff {wanted : AlarmDocument → Prop} [DecidablePred wanted]
    (docs : List AlarmDocument) (d : AlarmDocument) : Oldest wanted docs d ↔
      docs.find? (fun e => e.born = d.born ∧ wanted e) = some d ∧
        ∀ e ∈ docs, wanted e → d.born ≤ e.born := by
  rw [List.find?_eq_some_iff_append]
  constructor
  · rintro ⟨before, after, rfl, want, older, notYounger⟩
    refine ⟨⟨by simp [want], before, after, rfl, fun e early => ?_⟩, fun e member wanted => ?_⟩
    · simp only [Bool.not_eq_true', decide_eq_false_iff_not]
      rintro ⟨same, wanted⟩
      have less := older e early wanted
      rw [same] at less
      exact Int64.lt_irrefl less
    · rcases List.mem_append.mp member with early | later
      · exact Int64.le_of_lt (older e early wanted)
      · rcases List.mem_cons.mp later with here | late
        · exact here ▸ Int64.le_refl d.born
        · exact notYounger e late wanted
  · rintro ⟨⟨want, before, after, rfl, first⟩, oldest⟩
    simp only [decide_eq_true_eq, true_and] at want
    refine ⟨before, after, rfl, want, fun e early wanted => ?_, fun e late => ?_⟩
    · have other := first e early
      simp only [Bool.not_eq_true', decide_eq_false_iff_not, not_and] at other
      refine Std.lt_of_le_of_ne (oldest e (by simp [early]) wanted) fun same => ?_
      exact other same.symm wanted
    · exact oldest e (by simp [late])

section Sorting
variable (docs : List AlarmDocument)

theorem sorted_ascending :
    (docs.mergeSort notYounger).Pairwise fun d e => d.born ≤ e.born :=
  (List.pairwise_mergeSort notYounger_trans notYounger_total docs).imp of_decide_eq_true

theorem sorted_stable (first : Int64) :
    (docs.mergeSort notYounger).filter (fun d => d.born = first) =
      docs.filter fun d => d.born = first := by
  have age : ∀ d ∈ docs.filter (fun d => d.born = first), d.born = first := fun d member => by
    simpa using (List.mem_filter.mp member).2
  have alike : (docs.filter fun d => d.born = first).Pairwise fun d e => d.notYounger e = true := by
    apply List.pairwise_of_forall_mem_list
    intro d one e other
    simp [notYounger, age d one, age e other]
  have inside := (List.sublist_mergeSort notYounger_trans notYounger_total alike
    List.filter_sublist).filter fun d => d.born = first
  rw [List.filter_filter] at inside
  simp only [Bool.and_self] at inside
  refine (inside.eq_of_length ?_).symm
  exact ((List.mergeSort_perm docs notYounger).filter _).length_eq.symm

variable {docs} {wanted : AlarmDocument → Prop} [DecidablePred wanted] {d : AlarmDocument}

theorem found_oldest (found : (docs.mergeSort notYounger).find? (fun e => wanted e) = some d) :
    Oldest wanted docs d := by
  obtain ⟨want, before, after, sorted, first⟩ := List.find?_eq_some_iff_append.mp found
  simp only [decide_eq_true_eq] at want
  refine (oldest_iff docs d).mpr ⟨?_, fun e member wanted => ?_⟩
  · have of_age : ((docs.mergeSort notYounger).filter fun e => e.born = d.born).find?
        (fun e => wanted e) = some d := by
      rw [List.find?_filter]
      refine List.find?_eq_some_iff_append.mpr ⟨by simp [want], before, after, sorted, ?_⟩
      intro e early
      have other : ¬ wanted e := by simpa using first e early
      simp [other]
    rw [sorted_stable, List.find?_filter] at of_age
    simpa using of_age
  · have ascending := sorted_ascending docs
    have there := (List.mergeSort_perm docs notYounger).mem_iff.mpr member
    rw [sorted] at ascending there
    rcases List.mem_append.mp there with early | later
    · simpa [wanted] using first e early
    · rcases List.mem_cons.mp later with here | late
      · exact here ▸ Int64.le_refl d.born
      · exact (List.pairwise_cons.mp (List.pairwise_append.mp ascending).2.1).1 e late

theorem found_iff_oldest :
    (docs.mergeSort notYounger).find? (fun e => wanted e) = some d ↔ Oldest wanted docs d := by
  refine ⟨found_oldest, fun oldest => ?_⟩
  obtain ⟨first, least⟩ := (oldest_iff docs d).mp oldest
  obtain ⟨want, member⟩ : wanted d ∧ d ∈ docs :=
    ⟨by simpa using List.find?_some first, List.mem_of_find?_eq_some first⟩
  cases found : (docs.mergeSort notYounger).find? fun e => wanted e with
  | none =>
    have none_wanted := List.find?_eq_none.mp found d
      ((List.mergeSort_perm docs notYounger).mem_iff.mpr member)
    exact absurd want (by simpa using none_wanted)
  | some e =>
    obtain ⟨first', least'⟩ := (oldest_iff docs e).mp (found_oldest found)
    have wanted_e : wanted e := by simpa using List.find?_some found
    have same : e.born = d.born := Int64.le_antisymm (least' d member want)
      (least e (List.mem_of_find?_eq_some first') wanted_e)
    rw [same] at first'
    exact first'.symm.trans first

end Sorting

theorem oldest_filter (keep wanted : AlarmDocument → Prop) [DecidablePred keep]
    [DecidablePred wanted] (docs : List AlarmDocument) (d : AlarmDocument) :
    Oldest wanted (docs.filter fun e => keep e) d ↔ Oldest (fun e => keep e ∧ wanted e) docs d := by
  rw [oldest_iff, oldest_iff, List.find?_filter]
  simp only [List.mem_filter, decide_eq_true_eq, and_imp, and_left_comm]

namespace AlarmTable
variable (t : AlarmTable) (time : Int64)

theorem alarmsAt_eq :
    t.alarmsAt time = (t.alarms.filter fun d => d.AliveAt time).mergeSort notYounger := by
  have same : (fun d : AlarmDocument => d.existsAt time) = fun d => decide (d.AliveAt time) := by
    funext d
    rw [Bool.eq_iff_iff, exists_iff_alive, decide_eq_true_eq]
  rw [alarmsAt, same]
  rfl

theorem alarmsAt_member (d : AlarmDocument) :
    d ∈ t.alarmsAt time ↔ d ∈ t.alarms ∧ d.AliveAt time := by
  rw [alarmsAt_eq, (List.mergeSort_perm _ _).mem_iff, List.mem_filter, decide_eq_true_eq]

theorem alarmsAt_count (d : AlarmDocument) :
    (t.alarmsAt time).count d = if d.AliveAt time then t.alarms.count d else 0 := by
  rw [alarmsAt_eq, (List.mergeSort_perm _ _).count_eq]
  split
  · rename_i alive
    exact List.count_filter (decide_eq_true alive)
  · rename_i gone
    refine List.count_eq_zero.mpr fun member => gone ?_
    simpa using (List.mem_filter.mp member).2

section Wanted
variable (wanted : AlarmDocument → Prop) [DecidablePred wanted]

theorem found_alive (d : AlarmDocument) : (t.alarmsAt time).find? (fun e => wanted e) = some d ↔
    Oldest (fun e => e.AliveAt time ∧ wanted e) t.alarms d := by
  rw [alarmsAt_eq, found_iff_oldest, oldest_filter]

theorem none_alive : (t.alarmsAt time).find? (fun e => wanted e) = none ↔
    ¬ ∃ d ∈ t.alarms, d.AliveAt time ∧ wanted d := by
  simp [List.find?_eq_none, alarmsAt_member]

end Wanted

theorem firstOfType_answer (wanted : Int32) (kind : String) :
    (t.firstOfType time wanted kind = .error ⟨kind, time⟩ ↔
      ¬ ∃ d ∈ t.alarms, d.AliveAt time ∧ d.snapshot.alarmType = some wanted) ∧
    ∀ v, t.firstOfType time wanted kind = .ok v ↔ v.time = time ∧
      Oldest (fun d => d.AliveAt time ∧ d.snapshot.alarmType = some wanted) t.alarms v.alarm := by
  have typed : (fun d : AlarmDocument => d.snapshot.alarmType == some wanted) =
      fun d => decide (d.snapshot.alarmType = some wanted) := by
    funext d
    rw [Bool.eq_iff_iff, beq_iff_eq, decide_eq_true_eq]
  rw [← none_alive]
  simp only [← found_alive, firstOfType, typed]
  cases (t.alarmsAt time).find? fun d => d.snapshot.alarmType = some wanted with
  | none => simp
  | some d =>
    refine ⟨by simp, fun v => ?_⟩
    obtain ⟨alarm, at_⟩ := v
    simp [eq_comm, and_comm]

theorem situationsAt_eq :
    t.situationsAt time = (t.alarmsAt time).filter fun d => d.snapshot.situation = some true := by
  have situation : isSituation = fun d => decide (d.snapshot.situation = some true) := by
    funext d
    unfold isSituation
    cases d.snapshot.situation with
    | none => rfl
    | some b => cases b <;> rfl
  rw [situationsAt, situation]

theorem situationAt_answer :
    (t.situationAt time = none ↔
      ¬ ∃ d ∈ t.alarms, d.AliveAt time ∧ d.snapshot.situation = some true) ∧
    ∀ v, t.situationAt time = some v ↔ v.time = time ∧
      Oldest (fun d => d.AliveAt time ∧ d.snapshot.situation = some true) t.alarms v.alarm := by
  rw [← none_alive]
  simp only [← found_alive, situationAt, situationsAt_eq, List.head?_filter]
  cases (t.alarmsAt time).find? fun d => d.snapshot.situation = some true with
  | none => simp
  | some d =>
    refine ⟨by simp, fun v => ?_⟩
    obtain ⟨alarm, at_⟩ := v
    simp [eq_comm, and_comm]

/-- What the queries about a time answer, told from the list and who was alive. -/
theorem queries_exact :
    (∀ d, (t.alarmsAt time).count d = if d.AliveAt time then t.alarms.count d else 0) ∧
    ((t.alarmsAt time).Pairwise fun d e => d.born ≤ e.born) ∧
    (∀ first, ((t.alarmsAt time).filter fun d => d.born = first) =
      t.alarms.filter fun d => d.born = first ∧ d.AliveAt time) ∧
    t.situationsAt time = ((t.alarmsAt time).filter fun d => d.snapshot.situation = some true) ∧
    (t.problemAt time = .error ⟨"problem", time⟩ ↔
      ¬ ∃ d ∈ t.alarms, d.AliveAt time ∧ d.snapshot.alarmType = some problemType) ∧
    (∀ v, t.problemAt time = .ok v ↔ v.time = time ∧
      Oldest (fun d => d.AliveAt time ∧ d.snapshot.alarmType = some problemType) t.alarms v.alarm) ∧
    (t.resolutionAt time = .error ⟨"resolution", time⟩ ↔
      ¬ ∃ d ∈ t.alarms, d.AliveAt time ∧ d.snapshot.alarmType = some resolutionType) ∧
    (∀ v, t.resolutionAt time = .ok v ↔ v.time = time ∧
      Oldest (fun d => d.AliveAt time ∧ d.snapshot.alarmType = some resolutionType) t.alarms
        v.alarm) ∧
    (t.situationAt time = none ↔
      ¬ ∃ d ∈ t.alarms, d.AliveAt time ∧ d.snapshot.situation = some true) ∧
    ∀ v, t.situationAt time = some v ↔ v.time = time ∧
      Oldest (fun d => d.AliveAt time ∧ d.snapshot.situation = some true) t.alarms v.alarm := by
  obtain ⟨no_problem, problem⟩ := t.firstOfType_answer time problemType "problem"
  obtain ⟨no_resolution, resolution⟩ := t.firstOfType_answer time resolutionType "resolution"
  obtain ⟨no_situation, situation⟩ := t.situationAt_answer time
  refine ⟨t.alarmsAt_count time, ?_, ?_, t.situationsAt_eq time, no_problem, problem, no_resolution,
    resolution, no_situation, situation⟩
  · rw [alarmsAt_eq]
    exact sorted_ascending _
  · intro first
    rw [alarmsAt_eq, sorted_stable, List.filter_filter]
    simp only [Bool.decide_and]

end AlarmTable
end AlarmHistory
