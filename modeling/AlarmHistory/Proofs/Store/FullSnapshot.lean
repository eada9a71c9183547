import AlarmHistory.Proofs.Lifecycle.Reconstruction
import AlarmHistory.Proofs.Store.Sources

/- What a store shows of an alarm after a patch of the whole alarm. Most fields are always written,
   some as null. Six are left out where the alarm has nothing, and what an older patch has written
   there stays. -/
namespace AlarmHistory

/-- The fields that are left out of a patch where the alarm has nothing. -/
structure Sparse where
  logMessage : Option String
  description : Option String
  operatorInstructions : Option String
  managedObjectType : Option String
  managedObjectInstance : Option String
  node : Option NodeSummary
  deriving DecidableEq, Repr

namespace Sparse

def or (p q : Sparse) : Sparse where
  logMessage := p.logMessage.or q.logMessage
  description := p.description.or q.description
  operatorInstructions := p.operatorInstructions.or q.operatorInstructions
  managedObjectType := p.managedObjectType.or q.managedObjectType
  managedObjectInstance := p.managedObjectInstance.or q.managedObjectInstance
  node := p.node.or q.node

structure Within (q p : Sparse) : Prop where
  logMessage : p.logMessage = none → q.logMessage = none
  description : p.description = none → q.description = none
  operatorInstructions : p.operatorInstructions = none → q.operatorInstructions = none
  managedObjectType : p.managedObjectType = none → q.managedObjectType = none
  managedObjectInstance : p.managedObjectInstance = none → q.managedObjectInstance = none
  node : p.node = none → q.node = none

theorem or_eq_left_iff (p q : Sparse) : p.or q = p ↔ q.Within p := by
  have each {α : Type} (o u : Option α) : o.or u = o ↔ (o = none → u = none) := by
    cases o <;> simp
  cases p
  cases q
  simp only [or, mk.injEq, each]
  constructor
  · rintro ⟨message, description, instructions, type, instance_, node⟩
    exact ⟨message, description, instructions, type, instance_, node⟩
  · rintro ⟨message, description, instructions, type, instance_, node⟩
    exact ⟨message, description, instructions, type, instance_, node⟩

end Sparse

def Snapshot.sparse (s : Snapshot) : Sparse :=
  ⟨s.logMessage, s.description, s.operatorInstructions, s.managedObjectType,
    s.managedObjectInstance, s.node⟩

def Alarm.sparse (a : Alarm) (node : Option NodeSummary) : Sparse :=
  ⟨a.logMessage, a.description, a.operatorInstructions, a.managedObjectType,
    a.managedObjectInstance, node⟩

def Memo.shown (m : Memo) : MemoSummary where
  author := m.author
  body := m.body
  updateTime := m.updated

def Event.shown (e : Event) : EventSummary where
  id := e.id
  uei := e.uei
  logMessage := e.logMessage
  description := e.description

def Alarm.shown (a : Alarm) : RelatedSummary where
  id := a.id
  reductionKey := a.reductionKey
  firstEventTime := some a.firstEventTime
  lastEventTime := some a.lastEventTime
  lastEvent := a.lastEvent.map Event.shown
  severityId := some a.severity.id
  severityLabel := some a.severity.label
  managedObjectType := a.managedObjectType
  managedObjectInstance := a.managedObjectInstance

/-- All other fields are the alarm's. A cleared one reads as no value. -/
structure Snapshot.Filled (s : Snapshot) (a : Alarm) : Prop where
  alarmType : s.alarmType = some a.alarmType
  severityId : s.severityId = some a.severity.id
  severityLabel : s.severityLabel = some a.severity.label
  archived : s.archived = some a.archived
  stickyMemo : s.stickyMemo.value? = a.stickyMemo.map Memo.shown
  journalMemo : s.journalMemo.value? = a.journalMemo.map Memo.shown
  ackUser : s.ackUser.value? = a.ackUser
  ackTime : s.ackTime.value? = a.ackTime
  situation : s.situation = some a.situation
  relatedIds : s.relatedIds = some (a.related.map Alarm.id)
  relatedKeys : s.relatedKeys = some (a.related.map Alarm.reductionKey)
  related : s.related = some (a.related.map Alarm.shown)

structure Snapshot.Mirrors (s : Snapshot) (a : Alarm) (node : Option NodeSummary) : Prop extends
    s.Filled a where
  sparse : s.sparse = a.sparse node

theorem merge_filled (stored : Snapshot) (a : Alarm) (node : Option NodeSummary)
    (deletedTime : Option Int64) :
    (stored.merge { a.snapshot node with deletedTime }).Filled a where
  alarmType := rfl
  severityId := rfl
  severityLabel := rfl
  archived := rfl
  stickyMemo := merged_edit_value _ _
  journalMemo := merged_edit_value _ _
  ackUser := merged_edit_value _ _
  ackTime := merged_edit_value _ _
  situation := rfl
  relatedIds := rfl
  relatedKeys := rfl
  related := rfl

theorem merge_nothing (p : Snapshot) : Snapshot.merge {} p = p := by
  have edit {α : Type} (e : Edit α) : Edit.keep.merge e = e := by
    cases e <;> rfl
  simp only [Snapshot.merge, Option.or_none, edit]

/-- The summary of the alarm's node, if it has one: the cached one if that node is cached. -/
def Alarm.nodeSummary (a : Alarm) (cache : NodeCache) : Option NodeSummary :=
  a.node.map fun n => (cache.summarise n).1

theorem full_patch {t : Transition} (full : t.isFull = true) {a : Alarm}
    (accepted : a.rejection? = none) (now : Int64) (cache : NodeCache) :
    ∃ deletedTime cache', t.patch a now cache = (.ok ⟨a.header now,
      { a.snapshot (a.nodeSummary cache) with deletedTime }, t.logs a now⟩, cache') := by
  have asked : ∃ cache', t.nodeFor a cache = (a.nodeSummary cache, cache') := by
    unfold Transition.nodeFor Alarm.nodeSummary
    cases a.node with
    | none => exact ⟨cache, by rw [full]; rfl⟩
    | some n => exact ⟨(cache.summarise n).2, by rw [full]; rfl⟩
  obtain ⟨cache', asked⟩ := asked
  simp only [Transition.patch, accepted, asked]
  cases t with
  | created | reduced _ | relatedUpdated _ => exact ⟨none, cache', rfl⟩
  | deleted => exact ⟨some now, cache', rfl⟩
  | _ => cases full

namespace Store
open Bulk Json

def Holdings.snapshotAt (h : Holdings) (place : Place) : Snapshot :=
  ((h place).map AlarmDocument.snapshot).getD {}

theorem onto_merge (stored : Option AlarmDocument) (p : AlarmDocument) :
    ∃ d, Work.onto stored (.merge p) = some d ∧
      d.snapshot = ((stored.map AlarmDocument.snapshot).getD {}).merge p.snapshot := by
  cases stored with
  | none => exact ⟨p, rfl, (merge_nothing p.snapshot).symm⟩
  | some d => exact ⟨d.merge p, rfl, rfl⟩

theorem snapshotAt_carryOut (h : Holdings) (t : Target) (position : Nat) (p : AlarmDocument) :
    (Action.carryOut h ⟨position, t.indexOf p, p.id, .merge p⟩).snapshotAt (t.placeOf p) =
      (h.snapshotAt (t.placeOf p)).merge p.snapshot := by
  obtain ⟨d, onto, snapshot⟩ := onto_merge (h (t.placeOf p)) p
  have held : Action.carryOut h ⟨position, t.indexOf p, p.id, .merge p⟩ (t.placeOf p) = some d :=
    (if_pos rfl).trans onto
  rw [Holdings.snapshotAt, held]
  exact snapshot

def placeOf (t : Target) (a : Alarm) : Place :=
  ⟨t.granularity.indexFor t.indexPrefix a.firstEventTime, a.id⟩

section Sent
variable {t : Transition} (full : t.isFull = true) {a : Alarm} (accepted : a.rejection? = none)
  (now : Int64) (cache : NodeCache) (target : Target) (position : Nat) {s : Sources} {h : Holdings}
  (shows : s.Shows h)
include full accepted shows

theorem full_patch_stored : ∃ patch cache' after source d,
    t.patch a now cache = (.ok patch, cache') ∧
      Sources.bulk (body (actions target [(position, patch)])) s = some after ∧
      after (placeOf target a).key = some source ∧
      (∀ v, Reordered (.obj source) v → AlarmDocument.ofJson v = .ok d) ∧
      d.snapshot.Filled a ∧ d.snapshot.sparse =
        (a.sparse (a.nodeSummary cache)).or (h.snapshotAt (placeOf target a)).sparse := by
  obtain ⟨deletedTime, cache', made⟩ := full_patch full accepted now cache
  let patch : AlarmDocument :=
    ⟨a.header now, { a.snapshot (a.nodeSummary cache) with deletedTime }, t.logs a now⟩
  obtain ⟨after, sent, shown⟩ := Sources.patch_shows shows target position patch
  obtain ⟨d, onto, snapshot⟩ := onto_merge (h (placeOf target a)) patch
  obtain ⟨source, there, read⟩ := shown.read ((if_pos rfl).trans onto)
  refine ⟨patch, cache', after, source, d, made, sent, there, read, ?_, ?_⟩
  · rw [snapshot]
    exact merge_filled _ a _ deletedTime
  · rw [snapshot]
    rfl

/-- What is read back after a patch of the whole alarm is the alarm, exactly if none of the fields
    that the patch leaves out had a value before. -/
theorem full_patch_mirrors_iff : ∃ patch cache' after source d,
    t.patch a now cache = (.ok patch, cache') ∧
      Sources.bulk (body (actions target [(position, patch)])) s = some after ∧
      after (placeOf target a).key = some source ∧
      (∀ v, Reordered (.obj source) v → AlarmDocument.ofJson v = .ok d) ∧
      d.snapshot.Filled a ∧
      d.snapshot.sparse =
        (a.sparse (a.nodeSummary cache)).or (h.snapshotAt (placeOf target a)).sparse ∧
      (d.snapshot.Mirrors a (a.nodeSummary cache) ↔
        (h.snapshotAt (placeOf target a)).sparse.Within (a.sparse (a.nodeSummary cache))) := by
  obtain ⟨patch, cache', after, source, d, made, sent, there, read, filled, sparse⟩ :=
    full_patch_stored full accepted now cache target position shows
  refine ⟨patch, cache', after, source, d, made, sent, there, read, filled, sparse, ?_⟩
  rw [← Sparse.or_eq_left_iff, ← sparse]
  exact ⟨fun mirrors => mirrors.sparse, fun same => ⟨filled, same⟩⟩

end Sent

theorem withdrawn_memo_mirrored :
    let target : Target := ⟨"alarms", .monthly⟩
    let quiet := Alarm.ofIdentity 7 "rk" 5
    let first := { quiet with
      severity := .critical, description := some "down", stickyMemo := some ⟨some "x", none, none⟩
      ackUser := some "ann", ackTime := some 900 }
    let second := { quiet with description := some "up" }
    Transition.deleted.isFull = true ∧ second.rejection? = none ∧
      ∃ s h, Sources.Shows s h ∧
        (∃ stored, (Transition.created.patch first 1000 ⟨4, []⟩).1 = .ok stored ∧
          h (placeOf target second) = some stored) ∧
        ∃ patch cache' after source d,
          Transition.deleted.patch second 2000 ⟨4, []⟩ = (.ok patch, cache') ∧
            Sources.bulk (body (actions target [(0, patch)])) s = some after ∧
            after (placeOf target second).key = some source ∧
            (∀ v, Reordered (.obj source) v → AlarmDocument.ofJson v = .ok d) ∧
            d.snapshot.Mirrors second none := by
  intro target quiet first second
  let stored : AlarmDocument := ⟨first.header 1000, first.snapshot none, {}⟩
  obtain ⟨s, _, shows⟩ := Sources.patch_shows Sources.empty_shows target 0 stored
  have accepted : second.rejection? = none := by decide
  obtain ⟨patch, cache', after, source, d, made, sent, there, read, _, _, mirrors⟩ :=
    full_patch_mirrors_iff (t := .deleted) rfl accepted 2000 ⟨4, []⟩ target 0 shows
  refine ⟨rfl, accepted, s, _, shows, ⟨stored, rfl, if_pos rfl⟩, patch, cache', after, source, d, made,
    sent, there, read, mirrors.mpr ?_⟩
  have held : Holdings.snapshotAt _ (placeOf target second) = _ :=
    snapshotAt_carryOut (fun _ => none) target 0 stored
  rw [held]
  exact ⟨fun _ => rfl, nofun, fun _ => rfl, fun _ => rfl, fun _ => rfl, fun _ => rfl⟩

theorem lost_description_stays :
    let target : Target := ⟨"alarms", .monthly⟩
    let second := Alarm.ofIdentity 7 "rk" 5
    let first := { second with description := some "down" }
    ∃ stored patch s after source d,
      (Transition.created.patch first 1000 ⟨4, []⟩).1 = .ok stored ∧
        Sources.bulk (body (actions target [(0, stored)])) Sources.empty = some s ∧
        (Transition.deleted.patch second 2000 ⟨4, []⟩).1 = .ok patch ∧
        Sources.bulk (body (actions target [(0, patch)])) s = some after ∧
        after (placeOf target second).key = some source ∧
        (∀ v, Reordered (.obj source) v → AlarmDocument.ofJson v = .ok d) ∧
        second.description = none ∧ d.snapshot.description = some "down" := by
  intro target second first
  let stored : AlarmDocument := ⟨first.header 1000, first.snapshot none, {}⟩
  obtain ⟨s, created, shows⟩ := Sources.patch_shows Sources.empty_shows target 0 stored
  obtain ⟨patch, cache', after, source, d, made, sent, there, read, _, sparse⟩ :=
    full_patch_stored (t := .deleted) rfl (a := second) (by decide) 2000 ⟨4, []⟩ target 0 shows
  have held : Holdings.snapshotAt _ (placeOf target second) = _ :=
    snapshotAt_carryOut (fun _ => none) target 0 stored
  rw [held] at sparse
  exact ⟨stored, patch, s, after, source, d, rfl, created, congrArg Prod.fst made, sent, there, read,
    rfl, congrArg Sparse.description sparse⟩

end Store
end AlarmHistory
