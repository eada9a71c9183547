import AlarmHistory.Lifecycle.Related
import Mathlib.Logic.Basic
import Mathlib.Tactic.ByContra

/- Rosters of related alarms, and the log entries for the difference between two of them. The diff
   goes by ids and a log is read by keys; the two agree where ids and keys correspond. -/
namespace AlarmHistory.Lifecycle

def names (alarms : List Alarm) : List Entry := alarms.map fun a => ⟨a.id, a.reductionKey⟩

/-- No id goes by two keys, and no key belongs to two ids. -/
def OneToOne (es : List Entry) : Prop := ∀ e ∈ es, ∀ f ∈ es, e.id = f.id ↔ e.key = f.key

theorem enter_member {e f : Entry} {es : List Entry} (member : f ∈ enter e es) :
    f = e ∨ f ∈ es := by
  induction es with
  | nil => simpa [enter] using member
  | cons g es ih =>
    simp only [enter] at member
    split at member
    · simpa using member
    · split at member
      · rcases List.mem_cons.mp member with new | kept
        · exact Or.inl new
        · exact Or.inr (List.mem_cons_of_mem g kept)
      · rcases List.mem_cons.mp member with first | later
        · exact Or.inr (by simp [first])
        · exact (ih later).imp_right (List.mem_cons_of_mem g)

theorem enter_ids (e : Entry) (es : List Entry) (i : Int32) :
    i ∈ (enter e es).map Entry.id ↔ i = e.id ∨ i ∈ es.map Entry.id := by
  induction es with
  | nil => simp [enter]
  | cons g es ih =>
    simp only [enter]
    split
    · simp
    · split
      · rename_i same
        simp [same]
      · simp only [List.map_cons, List.mem_cons, ih]
        exact or_left_comm

theorem roster_from_member {alarms : List Alarm} {start : List Entry} {e : Entry}
    (member : e ∈ alarms.foldl (fun es a => enter ⟨a.id, a.reductionKey⟩ es) start) :
    e ∈ start ∨ e ∈ names alarms := by
  induction alarms generalizing start with
  | nil => exact Or.inl member
  | cons a alarms ih =>
    simp only [names, List.map_cons, List.mem_cons]
    rcases ih member with entered | later
    · rcases enter_member entered with new | old
      · exact Or.inr (Or.inl new)
      · exact Or.inl old
    · exact Or.inr (Or.inr later)

theorem roster_from_ids (alarms : List Alarm) (start : List Entry) (i : Int32) :
    i ∈ (alarms.foldl (fun es a => enter ⟨a.id, a.reductionKey⟩ es) start).map Entry.id ↔
      i ∈ start.map Entry.id ∨ i ∈ (names alarms).map Entry.id := by
  induction alarms generalizing start with
  | nil => simp [names]
  | cons a alarms ih =>
    simp only [List.foldl_cons, ih, enter_ids, names, List.map_cons, List.mem_cons]
    rw [or_assoc, or_left_comm]

theorem roster_member {alarms : List Alarm} {e : Entry} (member : e ∈ roster alarms) :
    e ∈ names alarms := by
  rcases roster_from_member member with start | named
  · simp at start
  · exact named

theorem roster_ids (alarms : List Alarm) (i : Int32) :
    i ∈ (roster alarms).map Entry.id ↔ i ∈ (names alarms).map Entry.id := by
  have ids := roster_from_ids alarms [] i
  rwa [List.map_nil, List.mem_nil_iff, false_or] at ids

theorem without_member {es others : List Entry} {e : Entry} :
    e ∈ without es others ↔ e ∈ es ∧ e.id ∉ others.map Entry.id := by
  simp [without]

theorem related_change_cases {now : Int64} {previous current : List Alarm} {c : RelatedChange}
    (member : c ∈ relatedChanges now previous current) :
    (∃ e ∈ names current, e.id ∉ (names previous).map Entry.id ∧ c = .added now e.id e.key) ∨
      ∃ e ∈ names previous, e.id ∉ (names current).map Entry.id ∧ c = .removed now e.id e.key := by
  rcases List.mem_append.mp member with added | removed
  · obtain ⟨e, lacking, rfl⟩ := List.mem_map.mp added
    obtain ⟨listed, new⟩ := without_member.mp lacking
    exact Or.inl ⟨e, roster_member listed, mt (roster_ids previous e.id).mpr new, rfl⟩
  · obtain ⟨e, lacking, rfl⟩ := List.mem_map.mp removed
    obtain ⟨listed, gone⟩ := without_member.mp lacking
    exact Or.inr ⟨e, roster_member listed, mt (roster_ids current e.id).mpr gone, rfl⟩

theorem related_change_stamped {now : Int64} {previous current : List Alarm} :
    ∀ c ∈ relatedChanges now previous current, c.time = now := by
  intro c member
  rcases related_change_cases member with ⟨e, _, _, rfl⟩ | ⟨e, _, _, rfl⟩ <;> rfl

section Correspondence
variable {es : List Entry} (one : OneToOne es) {previous current : List Alarm}
  (before : names previous ⊆ es) (after : names current ⊆ es)
include one before after

theorem related_change_previous {now : Int64} {c : RelatedChange}
    (member : c ∈ relatedChanges now previous current) :
    c.removal = decide (c.reductionKey ∈ (names previous).map Entry.key) := by
  rcases related_change_cases member with ⟨e, listed, new, rfl⟩ | ⟨e, listed, _, rfl⟩
  · have absent : e.key ∉ (names previous).map Entry.key := by
      intro present
      obtain ⟨f, old, same⟩ := List.mem_map.mp present
      have ids := (one f (before old) e (after listed)).mpr same
      exact new (List.mem_map.mpr ⟨f, old, ids⟩)
    exact (decide_eq_false absent).symm
  · have present : e.key ∈ (names previous).map Entry.key := List.mem_map_of_mem listed
    exact (decide_eq_true present).symm

theorem key_without {key : String} (present : key ∈ (names previous).map Entry.key)
    (absent : key ∉ (names current).map Entry.key) :
    ∃ e ∈ without (roster previous) (roster current), e.key = key := by
  obtain ⟨e, named, rfl⟩ := List.mem_map.mp present
  obtain ⟨f, listed, ids⟩ := List.mem_map.mp
    ((roster_ids previous e.id).mpr (List.mem_map_of_mem named))
  have keys := (one f (before (roster_member listed)) e (before named)).mp ids
  refine ⟨f, without_member.mpr ⟨listed, ?_⟩, keys⟩
  rw [roster_ids, ids]
  intro other
  obtain ⟨g, stays, same⟩ := List.mem_map.mp other
  have kept := (one g (after stays) e (before named)).mp same
  exact absent (List.mem_map.mpr ⟨g, stays, kept⟩)

theorem key_unchanged {now : Int64} {key : String}
    (none : ∀ c ∈ relatedChanges now previous current, c.reductionKey ≠ key) :
    key ∈ (names current).map Entry.key ↔ key ∈ (names previous).map Entry.key := by
  constructor
  · intro present
    by_contra absent
    obtain ⟨e, member, same⟩ := key_without one after before present absent
    refine none (.added now e.id e.key) ?_ same
    exact List.mem_append_left _ (List.mem_map.mpr ⟨e, member, rfl⟩)
  · intro present
    by_contra absent
    obtain ⟨e, member, same⟩ := key_without one before after present absent
    refine none (.removed now e.id e.key) ?_ same
    exact List.mem_append_right _ (List.mem_map.mpr ⟨e, member, rfl⟩)

end Correspondence
end AlarmHistory.Lifecycle
