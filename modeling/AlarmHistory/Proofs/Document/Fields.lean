import AlarmHistory.Document.Encoding
import AlarmHistory.Proofs.Lookup
import Mathlib.Data.List.Nodup

/- The fields of a document by the names under which they are written. What a document writes is
   read off a table of its fields, and merging a patch goes field by field. -/
namespace AlarmHistory
open Json

/-- A field of a record: its name, and what is written of it, if anything. -/
structure Field (α : Type) where
  name : String
  value : α → Option Json

namespace Field
variable {α β : Type}

def within (part : β → α) (f : Field α) : Field β := ⟨f.name, fun b => f.value (part b)⟩

def members (fs : List (Field α)) (a : α) : List (String × Json) :=
  fs.flatMap fun f => ((f.value a).map fun v => (f.name, v)).toList

def names (fs : List (Field α)) : List String := fs.map Field.name

theorem members_append (fs gs : List (Field α)) (a : α) :
    members (fs ++ gs) a = members fs a ++ members gs a := List.flatMap_append

theorem members_within (part : β → α) (fs : List (Field α)) (b : β) :
    members (fs.map (within part)) b = members fs (part b) := by
  rw [members, List.flatMap_map]
  rfl

theorem members_names (fs : List (Field α)) (a : α) :
    ((members fs a).map Prod.fst).Sublist (names fs) := by
  induction fs with
  | nil => exact List.Sublist.refl _
  | cons f fs ih =>
    cases written : f.value a with
    | none => simpa [members, names, written] using ih.cons f.name
    | some v => simpa [members, names, written] using ih

theorem members_distinct {fs : List (Field α)} (distinct : (names fs).Nodup) (a : α) :
    DistinctKeys (members fs a) := distinct.sublist (members_names fs a)

theorem lookup_field {fs : List (Field α)} (distinct : (names fs).Nodup) {f : Field α}
    (member : f ∈ fs) (a : α) : (members fs a).lookup f.name = f.value a := by
  cases written : f.value a with
  | some v =>
    refine lookup_of_member (members_distinct distinct a) (List.mem_flatMap.mpr ⟨f, member, ?_⟩)
    simp [written]
  | none =>
    rw [lookup_unknown_iff, List.mem_map]
    rintro ⟨⟨k, v⟩, there, same⟩
    obtain ⟨g, other, wrote⟩ := List.mem_flatMap.mp there
    obtain ⟨w, found, pair⟩ := Option.map_eq_some_iff.mp (Option.mem_toList.mp wrote)
    have name : g.name = f.name := (congrArg Prod.fst pair).trans same
    rw [List.inj_on_of_nodup_map distinct other member name, written] at found
    cases found

theorem lookup_other {fs : List (Field α)} {k : String} (other : k ∉ names fs) (a : α) :
    (members fs a).lookup k = none :=
  (lookup_unknown_iff _ _).mpr fun there => other ((members_names fs a).subset there)

end Field

theorem member?_eq {α : Type} (k : String) (f : α → Json) (o : Option α) :
    member? k f o = ((o.map f).map fun v => (k, v)).toList := by
  cases o <;> rfl

namespace Edit
variable {α : Type}

def written (f : α → Json) : Edit α → Option Json
  | keep => none
  | clear => some .null
  | put a => some (f a)

theorem member_eq (k : String) (f : α → Json) (e : Edit α) :
    e.member k f = ((e.written f).map fun v => (k, v)).toList := by
  cases e <;> rfl

theorem written_merge (f : α → Json) (stored patch : Edit α) :
    (stored.merge patch).written f = (patch.written f).or (stored.written f) := by
  cases patch <;> rfl

end Edit

namespace Header

def fields : List (Field Header) :=
  [⟨"id", fun h => some (int32Json h.id)⟩,
    ⟨"reduction-key", fun h => some (.str h.reductionKey)⟩,
    ⟨"first-event-time", fun h => some (int64Json h.firstEventTime)⟩,
    ⟨"last-event-time", fun h => some (int64Json h.lastEventTime)⟩,
    ⟨"update-time", fun h => some (int64Json h.updateTime)⟩]

theorem members_eq (h : Header) : h.members = Field.members fields h := rfl

end Header

namespace Snapshot

def fields : List (Field Snapshot) :=
  [⟨"type", fun s => s.alarmType.map int32Json⟩,
    ⟨"log-message", fun s => s.logMessage.map .str⟩,
    ⟨"description", fun s => s.description.map .str⟩,
    ⟨"operator-instructions", fun s => s.operatorInstructions.map .str⟩,
    ⟨"severity-id", fun s => s.severityId.map int32Json⟩,
    ⟨"severity-label", fun s => s.severityLabel.map .str⟩,
    ⟨"archived", fun s => s.archived.map .bool⟩,
    ⟨"managed-object-type", fun s => s.managedObjectType.map .str⟩,
    ⟨"managed-object-instance", fun s => s.managedObjectInstance.map .str⟩,
    ⟨"node", fun s => s.node.map NodeSummary.json⟩,
    ⟨"sticky-memo", fun s => s.stickyMemo.written MemoSummary.json⟩,
    ⟨"journal-memo", fun s => s.journalMemo.written MemoSummary.json⟩,
    ⟨"ack-user", fun s => s.ackUser.written .str⟩,
    ⟨"ack-time", fun s => s.ackTime.written int64Json⟩,
    ⟨"situation", fun s => s.situation.map .bool⟩,
    ⟨"related-alarm-ids", fun s => s.relatedIds.map fun is => .arr (is.map int32Json)⟩,
    ⟨"related-alarm-reduction-keys", fun s => s.relatedKeys.map strings⟩,
    ⟨"related-alarms", fun s => s.related.map fun rs => .arr (rs.map RelatedSummary.json)⟩,
    ⟨"archived-time", fun s => s.archivedTime.map int64Json⟩,
    ⟨"deleted-time", fun s => s.deletedTime.map int64Json⟩]

theorem members_eq (s : Snapshot) : s.members = Field.members fields s := by
  unfold members
  simp only [member?_eq, Edit.member_eq, Field.members, fields, List.flatMap_cons,
    List.flatMap_nil, List.append_nil, List.append_assoc]

theorem value_merge (stored patch : Snapshot) : ∀ f ∈ fields,
    f.value (stored.merge patch) = (f.value patch).or (f.value stored) := by
  simp only [fields, List.forall_mem_cons, merge, Option.map_or, Edit.written_merge, true_and,
    List.not_mem_nil, false_implies, implies_true]

end Snapshot

namespace AlarmDocument

/-- The fields that a patch sets or leaves alone: all but the logs. -/
def fields : List (Field AlarmDocument) :=
  Header.fields.map (.within header) ++ Snapshot.fields.map (.within snapshot)

theorem fields_distinct : (Field.names fields).Nodup := by decide +kernel

def field? (k : String) (d : AlarmDocument) : Option Json :=
  (d.header.members ++ d.snapshot.members).lookup k

theorem members_eq (d : AlarmDocument) :
    d.header.members ++ d.snapshot.members = Field.members fields d := by
  rw [fields, Field.members_append, Field.members_within, Field.members_within, Header.members_eq,
    Snapshot.members_eq]

theorem field?_eq {f : Field AlarmDocument} (member : f ∈ fields) (d : AlarmDocument) :
    d.field? f.name = f.value d := by
  rw [field?, members_eq]
  exact Field.lookup_field fields_distinct member d

theorem value_logs (d : AlarmDocument) (logs : ChangeLogs) {f : Field AlarmDocument}
    (member : f ∈ fields) : f.value { d with logs } = f.value d := by
  rcases List.mem_append.mp member with head | snap
  · obtain ⟨g, _, rfl⟩ := List.mem_map.mp head
    rfl
  · obtain ⟨g, _, rfl⟩ := List.mem_map.mp snap
    rfl

theorem value_merge (stored patch : AlarmDocument) {f : Field AlarmDocument} (member : f ∈ fields) :
    f.value (stored.merge patch) = (f.value patch).or (f.value stored) := by
  rcases List.mem_append.mp member with head | snap
  · obtain ⟨g, there, rfl⟩ := List.mem_map.mp head
    have always : (g.value patch.header).isSome := by
      revert g
      simp [Header.fields]
    exact (Option.or_of_isSome always).symm
  · obtain ⟨g, there, rfl⟩ := List.mem_map.mp snap
    exact Snapshot.value_merge stored.snapshot patch.snapshot g there

/-- A merge gives every field what the patch writes, or else what was there. -/
theorem field?_merge (stored patch : AlarmDocument) (k : String) :
    (stored.merge patch).field? k = (patch.field? k).or (stored.field? k) := by
  by_cases known : k ∈ Field.names fields
  · obtain ⟨f, member, rfl⟩ := List.mem_map.mp known
    rw [field?_eq member, field?_eq member, field?_eq member]
    exact value_merge stored patch member
  · have absent : ∀ d : AlarmDocument, d.field? k = none := by
      intro d
      rw [field?, members_eq]
      exact Field.lookup_other known d
    rw [absent, absent, absent]
    rfl

end AlarmDocument
end AlarmHistory
