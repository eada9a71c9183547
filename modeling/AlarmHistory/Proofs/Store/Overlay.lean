import AlarmHistory.Proofs.Document.Decoding
import AlarmHistory.Proofs.Store.Holdings
import AlarmHistory.Proofs.Store.Procedure

/- Laying one object over another, as a store does with the `doc` of an update. Where both have an
   object the two are merged in turn, and anything else is replaced. The parts of a document that
   are objects always write all their members, so that for documents this comes to replacing. -/
namespace AlarmHistory.Store
open Bulk Json

mutual

def overlay (stored : Json) : Json → Json
  | .obj ms =>
    match stored with
    | .obj ns => .obj (overlayMembers ns ms)
    | _ => .obj ms
  | v => v

def overlayMembers (stored : Members) : List (String × Json) → Members
  | [] => stored
  | (k, v) :: rest =>
    overlayMembers (stored.put k (match stored.lookup k with
      | some w => overlay w v
      | none => v)) rest

end

def overlaid : Option Json → Json → Json
  | some w, v => overlay w v
  | none, v => v

theorem overlayMembers_distinct {ns : Members} (distinct : DistinctKeys ns)
    (ms : List (String × Json)) : DistinctKeys (overlayMembers ns ms) := by
  induction ms generalizing ns with
  | nil => exact distinct
  | cons e ms ih => exact ih (put_distinct _ _ distinct)

theorem lookup_overlayMembers (ns : Members) {ms : List (String × Json)}
    (distinct : DistinctKeys ms) (k : String) : (overlayMembers ns ms).lookup k =
      ((ms.lookup k).map (overlaid (ns.lookup k))).or (ns.lookup k) := by
  induction ms generalizing ns with
  | nil => rfl
  | cons e ms ih =>
    obtain ⟨l, v⟩ := e
    obtain ⟨once, rest⟩ := List.nodup_cons.mp distinct
    rw [overlayMembers, ih _ rest, lookup_put, lookup_cons_if]
    split
    · rename_i here
      rw [here, (lookup_unknown_iff ms l).mpr once]
      cases ns.lookup l <;> rfl
    · rfl

section Replacing
variable {α β : Type} {f : β → Json}

theorem overlay_optional (flat : ∀ w b, overlay w (f b) = f b) (w : Json) (o : Option β) :
    overlay w (optional f o) = optional f o := by
  cases o with
  | none => rfl
  | some b => exact flat w b

theorem overlay_node (m n : NodeSummary) : overlay m.json n.json = n.json := by
  have text := overlay_optional (fun w s => (rfl : overlay w (.str s) = .str s))
  simp [NodeSummary.json, overlay, overlayMembers, Members.put, List.lookup_cons, text, int32Json,
    strings]

theorem overlay_memo (m n : MemoSummary) : overlay m.json n.json = n.json := by
  have text := overlay_optional (fun w s => (rfl : overlay w (.str s) = .str s))
  have time := overlay_optional (fun w i => (rfl : overlay w (int64Json i) = int64Json i))
  simp [MemoSummary.json, overlay, overlayMembers, Members.put, List.lookup_cons, text, time]

/-- A field of which a new value takes the place of an old one. -/
def Replaces (f : Field α) : Prop :=
  ∀ a b w v, f.value a = some w → f.value b = some v → overlay w v = v

theorem value_replaces (replaces : ∀ b c, overlay (f b) (f c) = f c) (part : α → Option β)
    (a b : α) (w v : Json) (stored : (part a).map f = some w) (new : (part b).map f = some v) :
    overlay w v = v := by
  obtain ⟨b, _, rfl⟩ := Option.map_eq_some_iff.mp stored
  obtain ⟨c, _, rfl⟩ := Option.map_eq_some_iff.mp new
  exact replaces b c

theorem written_replaces (replaces : ∀ b c, overlay (f b) (f c) = f c) (part : α → Edit β)
    (a b : α) (w v : Json) (stored : (part a).written f = some w)
    (new : (part b).written f = some v) : overlay w v = v := by
  have onNull : ∀ c, overlay .null (f c) = f c := by
    intro c
    cases f c <;> rfl
  cases first : part a <;> cases second : part b <;>
    simp only [first, second, Edit.written, Option.some.injEq, reduceCtorEq] at stored new
  · rw [← new]
    rfl
  · rw [← stored, ← new]
    exact onNull _
  · rw [← new]
    rfl
  · rw [← stored, ← new]
    exact replaces _ _

end Replacing

theorem header_replaces : ∀ f ∈ Header.fields, Replaces f := by
  simp only [Header.fields, List.forall_mem_cons, Replaces, Option.some.injEq]
  refine ⟨?_, ?_, ?_, ?_, ?_, fun _ none => absurd none List.not_mem_nil⟩ <;>
    (rintro a b w v rfl rfl; rfl)

theorem snapshot_replaces : ∀ f ∈ Snapshot.fields, Replaces f := by
  simp only [Snapshot.fields, List.forall_mem_cons, Replaces]
  have plain {β : Type} {f : β → Json} (flat : ∀ w c, overlay w (f c) = f c)
      (part : Snapshot → Option β) := value_replaces (fun b c => flat (f b) c) part
  have edited {β : Type} {f : β → Json} (flat : ∀ w c, overlay w (f c) = f c)
      (part : Snapshot → Edit β) := written_replaces (fun b c => flat (f b) c) part
  exact ⟨plain (fun _ _ => rfl) _, plain (fun _ _ => rfl) _, plain (fun _ _ => rfl) _,
    plain (fun _ _ => rfl) _, plain (fun _ _ => rfl) _, plain (fun _ _ => rfl) _,
    plain (fun _ _ => rfl) _, plain (fun _ _ => rfl) _, plain (fun _ _ => rfl) _,
    value_replaces overlay_node _, written_replaces overlay_memo _, written_replaces overlay_memo _,
    edited (fun _ _ => rfl) _, edited (fun _ _ => rfl) _, plain (fun _ _ => rfl) _,
    plain (fun _ _ => rfl) _, plain (fun _ _ => rfl) _, plain (fun _ _ => rfl) _,
    plain (fun _ _ => rfl) _, plain (fun _ _ => rfl) _, fun _ none => absurd none List.not_mem_nil⟩

theorem document_replaces {f : Field AlarmDocument} (member : f ∈ AlarmDocument.fields) :
    Replaces f := by
  intro a b w v
  rcases List.mem_append.mp member with head | snap
  · obtain ⟨g, field, rfl⟩ := List.mem_map.mp head
    exact header_replaces g field a.header b.header w v
  · obtain ⟨g, field, rfl⟩ := List.mem_map.mp snap
    exact snapshot_replaces g field a.snapshot b.snapshot w v

abbrev fieldMembers (d : AlarmDocument) : Members := Field.members AlarmDocument.fields d

theorem withoutLogs_json (d : AlarmDocument) : d.withoutLogs.json = .obj (fieldMembers d) := by
  have none : d.withoutLogs.logs.members = [] := rfl
  rw [AlarmDocument.json, none, List.append_nil]
  exact congrArg Json.obj (AlarmDocument.members_eq d)

theorem no_log_field : ∀ k ∈ logNames, k ∉ Field.names AlarmDocument.fields := by decide +kernel

theorem log_names : ChangeLogs.severityName ∈ logNames ∧ ChangeLogs.ackName ∈ logNames ∧
    ChangeLogs.memoName ∈ logNames ∧ ChangeLogs.relatedName ∈ logNames := by decide

theorem lookup_log {k : String} (log : k ∈ logNames) (d : AlarmDocument) :
    (fieldMembers d).lookup k = none := Field.lookup_other (no_log_field k log) d

theorem fieldMembers_distinct (d : AlarmDocument) : DistinctKeys (fieldMembers d) :=
  Field.members_distinct AlarmDocument.fields_distinct d

theorem lookup_fieldMembers {f : Field AlarmDocument} (member : f ∈ AlarmDocument.fields)
    (d : AlarmDocument) : (fieldMembers d).lookup f.name = f.value d.withoutLogs := by
  rw [AlarmDocument.withoutLogs, AlarmDocument.value_logs d {} member]
  exact Field.lookup_field AlarmDocument.fields_distinct member d

theorem shown_new (d : AlarmDocument) : d.withoutLogs.ShownBy (fieldMembers d) := by
  obtain ⟨severity, ack, memo, related⟩ := log_names
  exact ⟨fieldMembers_distinct d, fun f member => lookup_fieldMembers member d,
    Or.inl ⟨lookup_log severity d, rfl⟩, Or.inl ⟨lookup_log ack d, rfl⟩,
    Or.inl ⟨lookup_log memo d, rfl⟩, Or.inl ⟨lookup_log related d, rfl⟩⟩

def itemsOf : Option Json → List Json
  | some (.arr vs) => vs
  | _ => []

section Logs
variable {α : Type} {json : α → Json} {log : List α}

theorem holds_lists {ms : Members} {k : String} (holds : HoldsLog json (ms.lookup k) log) :
    Procedure.Lists ms k (itemsOf (ms.lookup k)) := by
  rcases holds with ⟨missing, _⟩ | ⟨vs, there, _⟩
  · exact Or.inl ⟨missing, congrArg itemsOf missing⟩
  · rw [there]
    exact Or.inr there

/-- New entries are written with their members sorted, after those that are there. -/
theorem holds_append {o : Option Json} (holds : HoldsLog json o log) (entries : List α) :
    HoldsLog json (some (.arr (itemsOf o ++ entries.map fun c => (json c).sorted)))
      (log ++ entries) := by
  have new : List.Forall₂ (fun v c => v.IsWritten (json c))
      (entries.map fun c => (json c).sorted) entries :=
    List.forall₂_map_left_iff.mpr (List.forall₂_same.mpr fun _ _ => Or.inr rfl)
  rcases holds with ⟨rfl, rfl⟩ | ⟨vs, rfl, written⟩
  · exact Or.inr ⟨_, rfl, new⟩
  · exact Or.inr ⟨_, rfl, List.rel_append written new⟩

end Logs

theorem sortedItems_map (vs : List Json) : sortedItems vs = vs.map sorted := by
  induction vs with
  | nil => rfl
  | cons v vs ih => rw [sortedItems, ih, List.map_cons]

theorem logs_sorted (c : ChangeLogs) : ∃ ps : Members, c.json.sorted = .obj ps ∧ DistinctKeys ps ∧
    ps.lookup ChangeLogs.severityName = some (.arr (c.severity.map fun e => e.json.sorted)) ∧
    ps.lookup ChangeLogs.ackName = some (.arr (c.ack.map fun e => e.json.sorted)) ∧
    ps.lookup ChangeLogs.memoName = some (.arr (c.memo.map fun e => e.json.sorted)) ∧
    ps.lookup ChangeLogs.relatedName = some (.arr (c.related.map fun e => e.json.sorted)) := by
  have items {α : Type} (json : α → Json) (entries : List α) :
      (Json.arr (entries.map json)).sorted = .arr (entries.map fun e => (json e).sorted) := by
    rw [sorted, sortedItems_map, List.map_map]
    rfl
  have distinct : DistinctKeys [(ChangeLogs.ackName, c.ackJson), (ChangeLogs.memoName, c.memoJson),
      (ChangeLogs.severityName, c.severityJson), (ChangeLogs.relatedName, c.relatedJson)] := by
    simp only [DistinctKeys, List.map_cons, List.map_nil]
    decide
  obtain ⟨ps, same, distinct', lookups⟩ := sorted_object distinct
  refine ⟨ps, same, distinct', ?_, ?_, ?_, ?_⟩
  · rw [lookups]
    exact congrArg some (items SeverityChange.json c.severity)
  · rw [lookups]
    exact congrArg some (items AckChange.json c.ack)
  · rw [lookups]
    exact congrArg some (items MemoChange.json c.memo)
  · rw [lookups]
    exact congrArg some (items RelatedChange.json c.related)

section Step
variable {d : AlarmDocument} {ms : Members} (shown : d.ShownBy ms)
include shown

theorem shown_merge (p : AlarmDocument) :
    (d.merge p.withoutLogs).ShownBy (overlayMembers ms (fieldMembers p)) := by
  have lookup := lookup_overlayMembers ms (fieldMembers_distinct p)
  have log : ∀ k ∈ logNames, (overlayMembers ms (fieldMembers p)).lookup k = ms.lookup k := by
    intro k member
    rw [lookup, lookup_log member]
    rfl
  obtain ⟨severity, ack, memo, related⟩ := log_names
  have logs : (d.merge p.withoutLogs).logs = d.logs := ChangeLogs.append_nothing d.logs
  refine ⟨overlayMembers_distinct shown.distinct _, fun f member => ?_, ?_, ?_, ?_, ?_⟩
  · rw [lookup, AlarmDocument.value_merge d p.withoutLogs member, shown.fields f member,
      lookup_fieldMembers member]
    congr 1
    cases new : f.value p.withoutLogs with
    | none => rfl
    | some v =>
      cases stored : f.value d with
      | none => rfl
      | some w => exact congrArg some (document_replaces member d p.withoutLogs w v stored new)
  · rw [log _ severity, logs]
    exact shown.severity
  · rw [log _ ack, logs]
    exact shown.ack
  · rw [log _ memo, logs]
    exact shown.memo
  · rw [log _ related, logs]
    exact shown.related

theorem shown_append (logs : ChangeLogs) :
    ∃ params statement after, logs.json.sorted = .obj params ∧
      Procedure.ofText? appendScript = some statement ∧ statement.run params [] ms = some after ∧
      AlarmDocument.ShownBy { d with logs := d.logs ++ logs } after := by
  obtain ⟨params, same, _, severity, ack, memo, related⟩ := logs_sorted logs
  have stored : ∀ k ∈ logNames, Procedure.Lists ms k (itemsOf (ms.lookup k)) := by
    simp only [logNames, List.forall_mem_cons]
    exact ⟨holds_lists shown.ack, holds_lists shown.memo, holds_lists shown.severity,
      holds_lists shown.related, fun _ none => absurd none List.not_mem_nil⟩
  have given : ∀ k ∈ logNames, params.lookup k = some (.arr (itemsOf (params.lookup k))) := by
    simp [logNames, severity, ack, memo, related, itemsOf]
  obtain ⟨statement, after, text, run, distinct, lookups⟩ :=
    Procedure.appendScript_run shown.distinct stored given
  refine ⟨params, statement, after, same, text, run, distinct, fun f member => ?_, ?_, ?_, ?_, ?_⟩
  · have other : f.name ∉ logNames := fun log =>
      no_log_field f.name log (List.mem_map_of_mem member)
    rw [lookups, if_neg other, AlarmDocument.value_logs d _ member]
    exact shown.fields f member
  · rw [lookups, if_pos log_names.1, severity]
    exact holds_append shown.severity logs.severity
  · rw [lookups, if_pos log_names.2.1, ack]
    exact holds_append shown.ack logs.ack
  · rw [lookups, if_pos log_names.2.2.1, memo]
    exact holds_append shown.memo logs.memo
  · rw [lookups, if_pos log_names.2.2.2, related]
    exact holds_append shown.related logs.related

end Step

end AlarmHistory.Store
