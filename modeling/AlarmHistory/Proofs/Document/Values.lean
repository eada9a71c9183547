import AlarmHistory.Proofs.Document.Fields

/- The values that a document is written with. What holds of texts, flags, ids and times, and of
   arrays and objects if it holds of their parts, holds of all that is written of a document. -/
namespace AlarmHistory
open Json

/-- An object counts if no key stands in it twice. -/
structure Json.Hereditary (P : Json → Prop) : Prop where
  null : P .null
  bool : ∀ b, P (.bool b)
  int32 : ∀ i, P (int32Json i)
  int64 : ∀ i, P (int64Json i)
  str : ∀ s, P (.str s)
  arr : ∀ vs : List Json, (∀ v ∈ vs, P v) → P (.arr vs)
  obj : ∀ ms : List (String × Json), DistinctKeys ms → (∀ e ∈ ms, P e.2) → P (.obj ms)

def Field.Holds {α : Type} (P : Json → Prop) (f : Field α) : Prop :=
  ∀ a v, f.value a = some v → P v

namespace ChangeLogs

def fields : List (Field ChangeLogs) :=
  [⟨severityName, fun c => if c.severity.isEmpty then none else some c.severityJson⟩,
    ⟨ackName, fun c => if c.ack.isEmpty then none else some c.ackJson⟩,
    ⟨memoName, fun c => if c.memo.isEmpty then none else some c.memoJson⟩,
    ⟨relatedName, fun c => if c.related.isEmpty then none else some c.relatedJson⟩]

theorem members_eq (c : ChangeLogs) : c.members = Field.members fields c := by
  have each : ∀ (empty : Bool) (k : String) (v : Json),
      (((if empty then none else some v).map fun v => (k, v)).toList : List (String × Json)) =
        if empty then [] else [(k, v)] := by
    intro empty k v
    cases empty <;> rfl
  simp only [members, Field.members, fields, List.flatMap_cons, List.flatMap_nil, each,
    List.append_nil, List.append_assoc]

end ChangeLogs

namespace AlarmDocument

/-- All that is written of a document, its logs included. -/
def writtenFields : List (Field AlarmDocument) := fields ++ ChangeLogs.fields.map (.within logs)

theorem writtenFields_distinct : (Field.names writtenFields).Nodup := by decide +kernel

theorem json_eq (d : AlarmDocument) : d.json = .obj (Field.members writtenFields d) := by
  rw [writtenFields, Field.members_append, Field.members_within, ← members_eq,
    ← ChangeLogs.members_eq, List.append_assoc]
  rfl

end AlarmDocument

section Written
variable {P : Json → Prop} (all : Hereditary P)
include all

section Parts
variable {α β : Type} {f : β → Json} (each : ∀ b, P (f b))
include each

theorem map_holds (bs : List β) : P (.arr (bs.map f)) := by
  apply all.arr
  intro v member
  obtain ⟨b, _, rfl⟩ := List.mem_map.mp member
  exact each b

theorem optional_holds (o : Option β) : P (optional f o) := by
  cases o with
  | none => exact all.null
  | some b => exact each b

omit all in
theorem member?_holds (k : String) (o : Option β) : ∀ e ∈ member? k f o, P e.2 := by
  cases o with
  | none => simp [member?]
  | some b => simpa [member?] using each b

omit all in
theorem value_holds (part : α → Option β) (a : α) (v : Json) (wrote : (part a).map f = some v) :
    P v := by
  obtain ⟨b, _, rfl⟩ := Option.map_eq_some_iff.mp wrote
  exact each b

theorem written_holds (part : α → Edit β) (a : α) (v : Json) (wrote : (part a).written f = some v) :
    P v := by
  cases edit : part a with
  | keep => simp [edit, Edit.written] at wrote
  | clear =>
    simp only [edit, Edit.written, Option.some.injEq] at wrote
    exact wrote ▸ all.null
  | put b =>
    simp only [edit, Edit.written, Option.some.injEq] at wrote
    exact wrote ▸ each b

end Parts

theorem strings_holds (ss : List String) : P (strings ss) := map_holds all all.str ss

theorem SeverityChange.json_holds (c : SeverityChange) : P c.json := by
  obtain ⟨time, id, label⟩ := c
  apply all.obj
  · cases id <;> cases label <;> simp [DistinctKeys, member?]
  · simp only [List.forall_mem_cons, List.forall_mem_append]
    exact ⟨all.int64 time, member?_holds all.int32 _ id, member?_holds all.str _ label⟩

theorem AckChange.json_holds (c : AckChange) : P c.json := by
  apply all.obj
  · simp [DistinctKeys]
  · simp only [List.forall_mem_cons]
    exact ⟨all.int64 c.time, optional_holds all all.str c.ackUser,
      optional_holds all all.int64 c.ackTime, by simp⟩

theorem MemoChange.json_holds (c : MemoChange) : P c.json := by
  obtain ⟨time, kind, body, author, updateTime, deleted⟩ := c
  apply all.obj
  · cases deleted <;> simp [DistinctKeys]
  · simp only [List.forall_mem_append, List.forall_mem_cons]
    refine ⟨⟨all.int64 time, all.str kind.name, optional_holds all all.str body,
      optional_holds all all.str author, optional_holds all all.int64 updateTime, by simp⟩, ?_⟩
    cases deleted <;> simp [all.bool]

theorem RelatedChange.json_holds (c : RelatedChange) : P c.json := by
  apply all.obj
  · simp [DistinctKeys]
  · simp only [List.forall_mem_cons]
    exact ⟨all.int64 c.time, all.int32 c.id, all.str c.reductionKey, all.bool c.addition,
      all.bool c.removal, by simp⟩

theorem NodeSummary.json_holds (n : NodeSummary) : P n.json := by
  apply all.obj
  · simp [DistinctKeys]
  · simp only [List.forall_mem_cons]
    exact ⟨all.int32 n.id, all.str n.label, optional_holds all all.str n.foreignSource,
      optional_holds all all.str n.foreignId, strings_holds all n.categories, by simp⟩

theorem MemoSummary.json_holds (m : MemoSummary) : P m.json := by
  apply all.obj
  · simp [DistinctKeys]
  · simp only [List.forall_mem_cons]
    exact ⟨optional_holds all all.str m.author, optional_holds all all.str m.body,
      optional_holds all all.int64 m.updateTime, by simp⟩

theorem EventSummary.json_holds (e : EventSummary) : P e.json := by
  apply all.obj
  · simp [DistinctKeys]
  · simp only [List.forall_mem_cons]
    exact ⟨all.int32 e.id, all.str e.uei, optional_holds all all.str e.logMessage,
      optional_holds all all.str e.description, by simp⟩

theorem RelatedSummary.json_holds (r : RelatedSummary) : P r.json := by
  obtain ⟨id, key, firstEventTime, lastEventTime, lastEvent, severityId, severityLabel, type,
    instance_⟩ := r
  apply all.obj
  · cases lastEvent <;> simp [DistinctKeys, member?]
  · simp only [List.forall_mem_append, List.forall_mem_cons]
    exact ⟨⟨all.int32 id, all.str key, optional_holds all all.int64 firstEventTime,
      optional_holds all all.int64 lastEventTime, by simp⟩,
      member?_holds (EventSummary.json_holds all) _ lastEvent,
      optional_holds all all.int32 severityId, optional_holds all all.str severityLabel,
      optional_holds all all.str type, optional_holds all all.str instance_, by simp⟩

theorem ChangeLogs.severity_holds (c : ChangeLogs) : P c.severityJson :=
  map_holds all (SeverityChange.json_holds all) c.severity

theorem ChangeLogs.ack_holds (c : ChangeLogs) : P c.ackJson :=
  map_holds all (AckChange.json_holds all) c.ack

theorem ChangeLogs.memo_holds (c : ChangeLogs) : P c.memoJson :=
  map_holds all (MemoChange.json_holds all) c.memo

theorem ChangeLogs.related_holds (c : ChangeLogs) : P c.relatedJson :=
  map_holds all (RelatedChange.json_holds all) c.related

theorem ChangeLogs.json_holds (c : ChangeLogs) : P c.json := by
  apply all.obj
  · simp only [DistinctKeys, List.map_cons, List.map_nil]
    decide
  · simp only [List.forall_mem_cons]
    exact ⟨c.ack_holds all, c.memo_holds all, c.severity_holds all, c.related_holds all, by simp⟩

theorem ChangeLogs.fields_hold : ∀ f ∈ fields, f.Holds P := by
  have shown : ∀ {empty : Bool} {v w : Json}, P v → (if empty then none else some v) = some w →
      P w := by
    intro empty v w holds wrote
    cases empty with
    | true => simp at wrote
    | false => exact Option.some.inj wrote ▸ holds
  simp only [fields, List.forall_mem_cons, Field.Holds]
  exact ⟨fun c _ => shown (c.severity_holds all), fun c _ => shown (c.ack_holds all),
    fun c _ => shown (c.memo_holds all), fun c _ => shown (c.related_holds all), by simp⟩

theorem Header.fields_hold : ∀ f ∈ fields, f.Holds P := by
  simp only [fields, List.forall_mem_cons, Field.Holds, Option.some.injEq]
  refine ⟨?_, ?_, ?_, ?_, ?_, by simp⟩
  · rintro h v rfl
    exact all.int32 h.id
  · rintro h v rfl
    exact all.str h.reductionKey
  · rintro h v rfl
    exact all.int64 h.firstEventTime
  · rintro h v rfl
    exact all.int64 h.lastEventTime
  · rintro h v rfl
    exact all.int64 h.updateTime

theorem Snapshot.fields_hold : ∀ f ∈ fields, f.Holds P := by
  have memo := MemoSummary.json_holds all
  have related := map_holds all (RelatedSummary.json_holds all)
  simp only [fields, List.forall_mem_cons, Field.Holds]
  exact ⟨value_holds all.int32 _, value_holds all.str _, value_holds all.str _,
    value_holds all.str _, value_holds all.int32 _, value_holds all.str _, value_holds all.bool _,
    value_holds all.str _, value_holds all.str _, value_holds (NodeSummary.json_holds all) _,
    written_holds all memo _, written_holds all memo _, written_holds all all.str _,
    written_holds all all.int64 _, value_holds all.bool _,
    value_holds (map_holds all all.int32) _, value_holds (strings_holds all) _,
    value_holds related _, value_holds all.int64 _, value_holds all.int64 _, by simp⟩

theorem AlarmDocument.json_holds (d : AlarmDocument) : P d.json := by
  rw [json_eq]
  apply all.obj
  · exact Field.members_distinct writtenFields_distinct d
  · intro e member
    obtain ⟨f, there, wrote⟩ := List.mem_flatMap.mp member
    obtain ⟨v, given, rfl⟩ := Option.map_eq_some_iff.mp (Option.mem_toList.mp wrote)
    rcases List.mem_append.mp there with snapshot | log
    · rcases List.mem_append.mp snapshot with head | snap
      · obtain ⟨g, field, rfl⟩ := List.mem_map.mp head
        exact Header.fields_hold all g field d.header v given
      · obtain ⟨g, field, rfl⟩ := List.mem_map.mp snap
        exact Snapshot.fields_hold all g field d.snapshot v given
    · obtain ⟨g, field, rfl⟩ := List.mem_map.mp log
      exact ChangeLogs.fields_hold all g field d.logs v given

end Written
end AlarmHistory
