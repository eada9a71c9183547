import AlarmHistory.Proofs.Document.Fields
import AlarmHistory.Proofs.Json.AnyOrder
import AlarmHistory.Proofs.Json.Sorted

/- The parts of a document are read back from what is written of them, in any order of members. A
   patch's log entries are written with their members sorted, those of a document as they come. -/
namespace AlarmHistory
open Json Json.Decoder

section Fields
variable {α β : Type} {get : String → Option Json} {r : Record (Option β → α)} {f : Option β → α}
  (reads : r.Reads get f) {name : String} {dec : Decoder β} {g : β → Json}
  (each : ∀ b, Reads dec (g b) b) (full : ∀ b, g b ≠ .null)
include reads each full

theorem optional_reads {o : Option β} (there : get name = some (optional g o)) :
    (r.optional name dec).Reads get (f o) :=
  field_present reads there (reads_optional each full o) _

theorem member_reads {o : Option β} (there : get name = o.map g) :
    (r.optional name dec).Reads get (f o) := by
  cases o with
  | none => exact field_absent reads there (Or.inr rfl)
  | some b => exact field_present reads there (reads_some (each b) (full b)) _

end Fields

theorem edit_reads {α β : Type} {get : String → Option Json} {r : Record (Edit β → α)}
    {f : Edit β → α} (reads : r.Reads get f) {name : String} {dec : Decoder β} {g : β → Json}
    (each : ∀ b, Reads dec (g b) b) (full : ∀ b, g b ≠ .null) {e : Edit β}
    (there : get name = e.written g) :
    (r.defaulted name (Edit.decoder dec) .keep).Reads get (f e) := by
  cases e with
  | keep => exact field_absent reads there (Or.inr rfl)
  | clear => exact field_present reads there (reads_edit (reads_null dec)) _
  | put b => exact field_present reads there (reads_edit (reads_some (each b) (full b))) _

theorem flag_reads {α : Type} {get : String → Option Json} {r : Record (Bool → α)} {f : Bool → α}
    (reads : r.Reads get f) {name : String} {b : Bool}
    (there : get name = if b then some (.bool true) else none) :
    (r.defaulted name bool false).Reads get (f b) := by
  cases b with
  | false => exact field_absent reads there (Or.inr rfl)
  | true => exact field_present reads there (reads_bool true) _

theorem str_full (s : String) : Json.str s ≠ .null := Json.noConfusion

theorem int32_full (i : Int32) : int32Json i ≠ .null := Json.noConfusion

theorem int64_full (i : Int64) : int64Json i ≠ .null := Json.noConfusion

theorem bool_full (b : Bool) : Json.bool b ≠ .null := Json.noConfusion

theorem list_full {α : Type} (f : α → Json) (as : List α) : Json.arr (as.map f) ≠ .null :=
  Json.noConfusion

theorem node_full (n : NodeSummary) : n.json ≠ .null := Json.noConfusion

theorem memo_full (m : MemoSummary) : m.json ≠ .null := Json.noConfusion

theorem event_full (e : EventSummary) : e.json ≠ .null := Json.noConfusion

namespace MemoSummary

theorem reads (m : MemoSummary) : Reads decoder m.json m := by
  obtain ⟨author, body, updateTime⟩ := m
  apply record_reads (by simp [DistinctKeys])
  refine optional_reads ?_ reads_int64 int64_full rfl
  refine optional_reads ?_ reads_string str_full rfl
  refine optional_reads ?_ reads_string str_full rfl
  exact pure_reads _

end MemoSummary

theorem strings_read (ss : List String) : Reads (list string) (strings ss) ss :=
  reads_map reads_string ss

theorem int32s_read (is : List Int32) : Reads (list int32) (.arr (is.map int32Json)) is :=
  reads_map reads_int32 is

namespace NodeSummary

theorem reads (n : NodeSummary) : Reads decoder n.json n := by
  obtain ⟨id, label, foreignSource, foreignId, categories⟩ := n
  apply record_reads (by simp [DistinctKeys])
  refine field_present ?_ rfl (strings_read categories) _
  refine optional_reads ?_ reads_string str_full rfl
  refine optional_reads ?_ reads_string str_full rfl
  refine field_present ?_ rfl (reads_string label) _
  refine field_present ?_ rfl (reads_int32 id) _
  exact pure_reads _

end NodeSummary

namespace EventSummary

theorem reads (e : EventSummary) : Reads decoder e.json e := by
  obtain ⟨id, uei, logMessage, description⟩ := e
  apply record_reads (by simp [DistinctKeys])
  refine optional_reads ?_ reads_string str_full rfl
  refine optional_reads ?_ reads_string str_full rfl
  refine field_present ?_ rfl (reads_string uei) _
  refine field_present ?_ rfl (reads_int32 id) _
  exact pure_reads _

end EventSummary

namespace RelatedSummary

theorem reads (r : RelatedSummary) : Reads decoder r.json r := by
  obtain ⟨id, key, firstEventTime, lastEventTime, lastEvent, severityId, severityLabel, type,
    instance_⟩ := r
  apply record_reads (by cases lastEvent <;> simp [DistinctKeys, member?])
  refine optional_reads ?_ reads_string str_full (by cases lastEvent <;> rfl)
  refine optional_reads ?_ reads_string str_full (by cases lastEvent <;> rfl)
  refine optional_reads ?_ reads_string str_full (by cases lastEvent <;> rfl)
  refine optional_reads ?_ reads_int32 int32_full (by cases lastEvent <;> rfl)
  refine member_reads ?_ EventSummary.reads event_full (by cases lastEvent <;> rfl)
  refine optional_reads ?_ reads_int64 int64_full rfl
  refine optional_reads ?_ reads_int64 int64_full rfl
  refine field_present ?_ rfl (reads_string key) _
  refine field_present ?_ rfl (reads_int32 id) _
  exact pure_reads _

end RelatedSummary

/-- As it is written in a document, or in the parameters of a script. -/
def Json.IsWritten (v w : Json) : Prop := v = w ∨ v = w.sorted

section Entries
variable {v : Json}

theorem SeverityChange.reads (c : SeverityChange) (written : v.IsWritten c.json) :
    Reads decoder v c := by
  obtain ⟨time, id, label⟩ := c
  obtain ⟨ms, rfl, distinct, same⟩ := flat_object
    (by cases id <;> cases label <;> simp [DistinctKeys, member?])
    (by cases id <;> cases label <;> simp [member?, sorted, int64Json, int32Json]) written
  apply record_reads distinct
  rw [funext same]
  refine member_reads ?_ reads_string str_full (by cases id <;> cases label <;> rfl)
  refine member_reads ?_ reads_int32 int32_full (by cases id <;> cases label <;> rfl)
  refine field_present ?_ rfl (reads_int64 time) _
  exact pure_reads _

theorem AckChange.reads (c : AckChange) (written : v.IsWritten c.json) : Reads decoder v c := by
  obtain ⟨time, user, ackTime⟩ := c
  obtain ⟨ms, rfl, distinct, same⟩ := flat_object (by simp [DistinctKeys])
    (by cases user <;> cases ackTime <;> simp [Json.optional, sorted, int64Json]) written
  apply record_reads distinct
  rw [funext same]
  refine optional_reads ?_ reads_int64 int64_full rfl
  refine optional_reads ?_ reads_string str_full rfl
  refine field_present ?_ rfl (reads_int64 time) _
  exact pure_reads _

theorem MemoKind.reads (k : MemoKind) : Reads decoder (.str k.name) k := by
  intro w reordered
  cases reordered
  cases k <;> rfl

theorem MemoChange.reads (c : MemoChange) (written : v.IsWritten c.json) : Reads decoder v c := by
  obtain ⟨time, kind, body, author, updateTime, deleted⟩ := c
  obtain ⟨ms, rfl, distinct, same⟩ := flat_object
    (by cases deleted <;> simp [DistinctKeys])
    (by cases body <;> cases author <;> cases updateTime <;> cases deleted <;>
          simp [Json.optional, sorted, int64Json]) written
  apply record_reads distinct
  rw [funext same]
  refine flag_reads ?_ (by cases deleted <;> rfl)
  refine optional_reads ?_ reads_int64 int64_full rfl
  refine optional_reads ?_ reads_string str_full rfl
  refine optional_reads ?_ reads_string str_full rfl
  refine field_present ?_ rfl (MemoKind.reads kind) _
  refine field_present ?_ rfl (reads_int64 time) _
  exact pure_reads _

theorem RelatedChange.reads (c : RelatedChange) (written : v.IsWritten c.json) :
    Reads decoder v c := by
  obtain ⟨time, id, key, addition, removal⟩ := c
  obtain ⟨ms, rfl, distinct, same⟩ := flat_object (by simp [DistinctKeys])
    (by simp [sorted, int64Json, int32Json]) written
  apply record_reads distinct
  rw [funext same]
  refine field_present ?_ rfl (reads_bool removal) _
  refine field_present ?_ rfl (reads_bool addition) _
  refine field_present ?_ rfl (reads_string key) _
  refine field_present ?_ rfl (reads_int32 id) _
  refine field_present ?_ rfl (reads_int64 time) _
  exact pure_reads _

end Entries

/-- What is there of a log: nothing if it has no entries, or an array of them. -/
def Json.HoldsLog {α : Type} (json : α → Json) (o : Option Json) (log : List α) : Prop :=
  o = none ∧ log = [] ∨
    ∃ vs, o = some (.arr vs) ∧ List.Forall₂ (fun v c => v.IsWritten (json c)) vs log

theorem log_reads {α β : Type} {get : String → Option Json} {r : Record (List β → α)}
    {f : List β → α} (reads : r.Reads get f) {name : String} {dec : Decoder β} {json : β → Json}
    (each : ∀ {v : Json} (b : β), v.IsWritten (json b) → Reads dec v b) {log : List β}
    (there : HoldsLog json (get name) log) :
    (r.defaulted name (list dec) []).Reads get (f log) := by
  rcases there with ⟨missing, rfl⟩ | ⟨vs, there, written⟩
  · exact field_absent reads missing (Or.inr rfl)
  · exact field_present reads there (reads_list (written.imp fun _ b => each b)) _

theorem Header.reads (h : Header) {get : String → Option Json}
    (there : ∀ f ∈ Header.fields, get f.name = f.value h) : Header.record.Reads get h := by
  obtain ⟨id, key, firstEventTime, lastEventTime, updateTime⟩ := h
  simp only [Header.fields, List.forall_mem_cons] at there
  obtain ⟨hid, hkey, hfirst, hlast, hupdate, _⟩ := there
  refine field_present ?_ hupdate (reads_int64 updateTime) _
  refine field_present ?_ hlast (reads_int64 lastEventTime) _
  refine field_present ?_ hfirst (reads_int64 firstEventTime) _
  refine field_present ?_ hkey (reads_string key) _
  refine field_present ?_ hid (reads_int32 id) _
  exact pure_reads _

theorem Snapshot.reads (s : Snapshot) {get : String → Option Json}
    (there : ∀ f ∈ Snapshot.fields, get f.name = f.value s) : Snapshot.record.Reads get s := by
  obtain ⟨_, _, _, _, _, _, _, _, _, _, _, _, _, _, _, _, _, _, _, _⟩ := s
  simp only [Snapshot.fields, List.forall_mem_cons] at there
  obtain ⟨type, message, description, instructions, severityId, severityLabel, archived, objectType,
    objectInstance, node, sticky, journal, ackUser, ackTime, situation, ids, keys, related,
    archivedTime, deletedTime, _⟩ := there
  refine member_reads ?_ reads_int64 int64_full deletedTime
  refine member_reads ?_ reads_int64 int64_full archivedTime
  refine member_reads ?_ (reads_map RelatedSummary.reads) (list_full _) related
  refine member_reads ?_ strings_read (list_full _) keys
  refine member_reads ?_ int32s_read (list_full _) ids
  refine member_reads ?_ reads_bool bool_full situation
  refine edit_reads ?_ reads_int64 int64_full ackTime
  refine edit_reads ?_ reads_string str_full ackUser
  refine edit_reads ?_ MemoSummary.reads memo_full journal
  refine edit_reads ?_ MemoSummary.reads memo_full sticky
  refine member_reads ?_ NodeSummary.reads node_full node
  refine member_reads ?_ reads_string str_full objectInstance
  refine member_reads ?_ reads_string str_full objectType
  refine member_reads ?_ reads_bool bool_full archived
  refine member_reads ?_ reads_string str_full severityLabel
  refine member_reads ?_ reads_int32 int32_full severityId
  refine member_reads ?_ reads_string str_full instructions
  refine member_reads ?_ reads_string str_full description
  refine member_reads ?_ reads_string str_full message
  refine member_reads ?_ reads_int32 int32_full type
  exact pure_reads _

theorem ChangeLogs.reads (c : ChangeLogs) {get : String → Option Json}
    (severity : HoldsLog SeverityChange.json (get severityName) c.severity)
    (ack : HoldsLog AckChange.json (get ackName) c.ack)
    (memo : HoldsLog MemoChange.json (get memoName) c.memo)
    (related : HoldsLog RelatedChange.json (get relatedName) c.related) : record.Reads get c := by
  obtain ⟨_, _, _, _⟩ := c
  refine log_reads ?_ RelatedChange.reads related
  refine log_reads ?_ MemoChange.reads memo
  refine log_reads ?_ AckChange.reads ack
  refine log_reads ?_ SeverityChange.reads severity
  exact pure_reads _

/-- The members of an object show a document: its fields, and its logs. -/
structure AlarmDocument.ShownBy (d : AlarmDocument) (ms : List (String × Json)) : Prop where
  distinct : DistinctKeys ms
  fields : ∀ f ∈ AlarmDocument.fields, ms.lookup f.name = f.value d
  severity : HoldsLog SeverityChange.json (ms.lookup ChangeLogs.severityName) d.logs.severity
  ack : HoldsLog AckChange.json (ms.lookup ChangeLogs.ackName) d.logs.ack
  memo : HoldsLog MemoChange.json (ms.lookup ChangeLogs.memoName) d.logs.memo
  related : HoldsLog RelatedChange.json (ms.lookup ChangeLogs.relatedName) d.logs.related

theorem AlarmDocument.ShownBy.reads {d : AlarmDocument} {ms : List (String × Json)}
    (shown : d.ShownBy ms) : Reads decoder (.obj ms) d := by
  have header : Header.record.Reads (fun k => ms.lookup k) d.header :=
    Header.reads _ fun f member =>
      shown.fields _ (List.mem_append_left _ (List.mem_map_of_mem member))
  have snapshot : Snapshot.record.Reads (fun k => ms.lookup k) d.snapshot :=
    Snapshot.reads _ fun f member =>
      shown.fields _ (List.mem_append_right _ (List.mem_map_of_mem member))
  have logs : ChangeLogs.record.Reads (fun k => ms.lookup k) d.logs :=
    ChangeLogs.reads _ shown.severity shown.ack shown.memo shown.related
  exact record_reads shown.distinct (map_reads (both_reads header (both_reads snapshot logs)) _)

theorem AlarmDocument.ShownBy.decoded {d : AlarmDocument} {ms : List (String × Json)}
    (shown : d.ShownBy ms) {v : Json} (reordered : Reordered (.obj ms) v) :
    AlarmDocument.ofJson v = .ok d := by
  rw [AlarmDocument.ofJson, decode, shown.reads v reordered]
  rfl

end AlarmHistory
