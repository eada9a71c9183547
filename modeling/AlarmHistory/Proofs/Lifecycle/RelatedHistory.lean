import AlarmHistory.Proofs.Lifecycle.Reconstruction

/- What the patch for a changed list of related alarms tells about the list before the change. The
   log says which ids came and went, a view asks by reduction key, and all entries of the patch have
   one time. The two fit together exactly if keys come and go with ids. -/
namespace AlarmHistory
open Lifecycle Past

namespace Lifecycle

def keysOf (alarms : List Alarm) : List String := (names alarms).map Entry.key

theorem key_listed {alarms : List Alarm} {key : String} :
    key ∈ keysOf alarms ↔ ∃ b ∈ alarms, b.reductionKey = key := by
  simp [keysOf, names]

def joined (previous current : List Alarm) : List Entry :=
  without (roster current) (roster previous)

def joinedKeys (previous current : List Alarm) : List String :=
  (joined previous current).map Entry.key

theorem joined_listed {previous current : List Alarm} {key : String}
    (member : key ∈ joinedKeys previous current) : key ∈ keysOf current := by
  obtain ⟨e, new, rfl⟩ := List.mem_map.mp member
  exact List.mem_map_of_mem (roster_member (without_member.mp new).1)

/-- A new id brings a key that was not there, and every key that is new or lost came or went with an
    id. Of several members with one id only the last one's key counts as that id's. -/
structure KeysFollowIds (previous current : List Alarm) : Prop where
  fresh : ∀ key ∈ joinedKeys previous current, key ∉ keysOf previous
  came : ∀ key ∈ keysOf current, key ∉ keysOf previous → key ∈ joinedKeys previous current
  went : ∀ key ∈ keysOf previous, key ∉ keysOf current → key ∈ joinedKeys current previous

theorem undone_iff (previous current : List Alarm) :
    (∀ key, key ∉ joinedKeys previous current ∧
        (key ∈ joinedKeys current previous ∨ key ∈ keysOf current) ↔ key ∈ keysOf previous) ↔
      KeysFollowIds previous current := by
  constructor
  · intro undone
    refine ⟨?_, ?_, ?_⟩
    · intro key new present
      exact ((undone key).mpr present).1 new
    · intro key present absent
      by_contra other
      exact absent ((undone key).mp ⟨other, Or.inr present⟩)
    · intro key present absent
      exact ((undone key).mpr present).2.resolve_right absent
  · intro follow key
    constructor
    · rintro ⟨other, lost | present⟩
      · exact joined_listed lost
      · by_contra absent
        exact other (follow.came key present absent)
    · intro present
      refine ⟨fun new => follow.fresh key new present, ?_⟩
      by_cases stays : key ∈ keysOf current
      · exact Or.inr stays
      · exact Or.inl (follow.went key present stays)

end Lifecycle

theorem related_before {d : AlarmDocument} {now time : Int64} {previous current : List Alarm}
    (log : d.logs.related = relatedChanges now previous current) (past : time < now)
    (key : String) : AlarmView.isRelated ⟨d, time⟩ key = true ↔
      key ∉ joinedKeys previous current ∧
        (key ∈ joinedKeys current previous ∨ key ∈ d.snapshot.currentRelatedKeys) := by
  have keyed : (relatedChanges now previous current).filter (fun c => c.reductionKey == key) =
      ((joined previous current).filter fun e => e.key == key).map
          (fun e => .added now e.id e.key) ++
        ((joined current previous).filter fun e => e.key == key).map
          fun e => .removed now e.id e.key := by
    rw [relatedChanges, List.filter_append, List.filter_map, List.filter_map]
    rfl
  have known : ∀ es : List Entry,
      key ∈ es.map Entry.key ↔ (es.filter fun e => e.key == key) ≠ [] := by
    intro es
    simp [List.filter_eq_nil_iff]
  have stamped : ∀ c ∈ (relatedChanges now previous current).filter fun c => c.reductionKey == key,
      c.time = now := fun c member => related_change_stamped c (List.mem_filter.mp member).1
  rw [AlarmView.related_told, told, log, first_after_stamped _ now time stamped past, keyed,
    joinedKeys, joinedKeys, known, known]
  cases (joined previous current).filter fun e => e.key == key with
  | cons e rest => simp [RelatedChange.added]
  | nil =>
    cases (joined current previous).filter fun e => e.key == key with
    | cons e rest => simp [RelatedChange.removed]
    | nil => simp

namespace Transition

def previousRelated? : Transition → Option (List Alarm)
  | relatedUpdated previous => some previous
  | reduced before => some before.related
  | _ => none

theorem related_patch {t : Transition} {previous : List Alarm}
    (given : t.previousRelated? = some previous) {a : Alarm} (accepted : a.rejection? = none)
    (now : Int64) (cache : NodeCache) : ∃ node logs cache',
      t.patch a now cache = (.ok ⟨a.header now, a.snapshot node, logs⟩, cache') ∧
        logs.related = relatedChanges now previous a.related := by
  simp only [patch, accepted]
  cases t with
  | relatedUpdated _ | reduced _ =>
    cases given
    exact ⟨_, _, _, rfl, rfl⟩
  | _ => cases given

end Transition

/-- From its own time on the patch shows the current related alarms. Before that time it shows the
    previous ones exactly if keys follow ids. -/
theorem related_history_iff {t : Transition} {previous : List Alarm}
    (given : t.previousRelated? = some previous) {a : Alarm} (accepted : a.rejection? = none)
    (now : Int64) (cache : NodeCache) :
    ∃ patch cache', t.patch a now cache = (.ok patch, cache') ∧ patch.header.updateTime = now ∧
      (∀ time, now ≤ time → ∀ key,
        key ∈ AlarmView.relatedKeys ⟨patch, time⟩ ↔ ∃ b ∈ a.related, b.reductionKey = key) ∧
      ∀ time, time < now →
        ((∀ key, key ∈ AlarmView.relatedKeys ⟨patch, time⟩ ↔
          ∃ b ∈ previous, b.reductionKey = key) ↔ KeysFollowIds previous a.related) := by
  obtain ⟨node, logs, cache', made, log⟩ := Transition.related_patch given accepted now cache
  have current : ∀ key, key ∈ (a.snapshot node).currentRelatedKeys ↔ key ∈ keysOf a.related :=
    snapshot_related_keys a node
  refine ⟨_, cache', made, rfl, ?_, ?_⟩
  · intro time reached key
    have settled : ∀ c ∈ logs.related.filter fun c => c.reductionKey == key, c.time ≤ time := by
      intro c member
      have entry : c ∈ relatedChanges now previous a.related := log ▸ (List.mem_filter.mp member).1
      rw [related_change_stamped c entry]
      exact reached
    rw [AlarmView.related_keys_member, AlarmView.related_told, told_settled _ _ _ _ settled,
      List.contains_iff_mem, current, key_listed]
  · intro time past
    rw [← undone_iff]
    refine forall_congr' fun key => ?_
    rw [AlarmView.related_keys_member, related_before log past, current, ← key_listed]

theorem shared_key_history :
    let previous := [Alarm.ofIdentity 2 "shared" 1, Alarm.ofIdentity 3 "shared" 1,
      Alarm.ofIdentity 4 "left" 1]
    let current := [Alarm.ofIdentity 2 "shared" 1, Alarm.ofIdentity 5 "new" 1]
    let a := { Alarm.ofIdentity 7 "rk" 5 with related := current }
    (Transition.relatedUpdated previous).previousRelated? = some previous ∧ a.rejection? = none ∧
      ∃ patch cache', (Transition.relatedUpdated previous).patch a 1000 ⟨4, []⟩ =
          (.ok patch, cache') ∧ patch.header.updateTime = 1000 ∧
        (∀ time, 1000 ≤ time → ∀ key,
          key ∈ AlarmView.relatedKeys ⟨patch, time⟩ ↔ ∃ b ∈ current, b.reductionKey = key) ∧
        ∀ time, time < 1000 → ∀ key,
          key ∈ AlarmView.relatedKeys ⟨patch, time⟩ ↔ ∃ b ∈ previous, b.reductionKey = key := by
  intro previous current a
  have accepted : a.rejection? = none := by decide
  have follow : KeysFollowIds previous a.related :=
    ⟨by decide +kernel, by decide +kernel, by decide +kernel⟩
  obtain ⟨patch, cache', made, stamped, after, before⟩ :=
    related_history_iff (t := .relatedUpdated previous) rfl accepted 1000 ⟨4, []⟩
  exact ⟨rfl, accepted, patch, cache', made, stamped, after,
    fun time past => (before time past).mpr follow⟩

theorem renamed_or_replaced_member_forgotten :
    let view := fun (previous current : List Alarm) (time : Int64) =>
      ((Transition.relatedUpdated previous).patch
        { Alarm.ofIdentity 7 "rk" 5 with related := current } 1000 ⟨4, []⟩).1.toOption.map
        fun patch => AlarmView.relatedKeys ⟨patch, time⟩
    view [Alarm.ofIdentity 2 "old" 1] [Alarm.ofIdentity 2 "new" 1] 999 = some ["new"] ∧
      view [Alarm.ofIdentity 2 "r" 1] [Alarm.ofIdentity 3 "r" 1] 999 = some [] := by
  decide +kernel

end AlarmHistory
