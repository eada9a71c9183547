import AlarmHistory.Proofs.Document.Decoding
import AlarmHistory.Proofs.Document.Text

/- A document is read back from its text and from its value as the one that was written. -/
namespace AlarmHistory
open Json

theorem items_reordered {vs : List Json} (each : ∀ v ∈ vs, Reordered v v.sorted) :
    ItemsReordered vs (sortedItems vs) := by
  induction vs with
  | nil => exact .nil
  | cons v vs ih =>
    obtain ⟨head, tail⟩ := List.forall_mem_cons.mp each
    exact .cons head (ih tail)

theorem members_reordered {ms : List (String × Json)} (each : ∀ e ∈ ms, Reordered e.2 e.2.sorted) :
    MembersReordered ms (ms.map fun e => (e.1, e.2.sorted)) := by
  induction ms with
  | nil => exact .nil
  | cons e ms ih =>
    obtain ⟨head, tail⟩ := List.forall_mem_cons.mp each
    exact .cons head (ih tail)

theorem reordered_hereditary : Hereditary fun v => Reordered v v.sorted where
  null := .same _
  bool _ := .same _
  int32 _ := .same _
  int64 _ := .same _
  str _ := .same _
  arr _ each := .arr (items_reordered each)
  obj ms distinct each := by
    have perm := sortedMembers_perm ms [] (by simpa using distinct)
    rw [List.append_nil] at perm
    exact .obj (members_reordered each) perm.symm

theorem log_written {α : Type} (json : α → Json) (log : List α) :
    HoldsLog json (if log.isEmpty then none else some (.arr (log.map json))) log := by
  cases log with
  | nil => exact Or.inl ⟨rfl, rfl⟩
  | cons c log =>
    have entries : List.Forall₂ (fun v c => v.IsWritten (json c)) ((c :: log).map json) (c :: log) :=
      List.forall₂_map_left_iff.mpr (List.forall₂_same.mpr fun _ _ => Or.inl rfl)
    exact Or.inr ⟨_, rfl, entries⟩

namespace AlarmDocument

theorem get_written (d : AlarmDocument) {f : Field AlarmDocument} (member : f ∈ writtenFields) :
    d.json.get? f.name = f.value d := by
  rw [json_eq]
  exact Field.lookup_field writtenFields_distinct member d

theorem shown_written (d : AlarmDocument) : d.ShownBy (Field.members writtenFields d) := by
  have there : ∀ f ∈ writtenFields, (Field.members writtenFields d).lookup f.name = f.value d :=
    fun f member => Field.lookup_field writtenFields_distinct member d
  have logs := (List.forall_mem_append.mp there).2
  simp only [ChangeLogs.fields, List.map_cons, List.map_nil, List.forall_mem_cons,
    Field.within] at logs
  obtain ⟨severity, ack, memo, related, _⟩ := logs
  refine ⟨Field.members_distinct writtenFields_distinct d, (List.forall_mem_append.mp there).1,
    ?_, ?_, ?_, ?_⟩
  · rw [severity]
    exact log_written SeverityChange.json d.logs.severity
  · rw [ack]
    exact log_written AckChange.json d.logs.ack
  · rw [memo]
    exact log_written MemoChange.json d.logs.memo
  · rw [related]
    exact log_written RelatedChange.json d.logs.related

theorem decoded_in_any_order (d : AlarmDocument) {v : Json} (reordered : Reordered d.json v) :
    ofJson v = .ok d := by
  rw [json_eq] at reordered
  exact d.shown_written.decoded reordered

theorem decoded_text (d : AlarmDocument) : ofText d.json.text = .ok d := by
  have read : decoder d.json.reading = .ok d := by
    rw [json_eq]
    exact d.shown_written.reads _ (.same _)
  simp only [ofText, decodeText, read_text d.json_exact, read, noFault, bind, Except.bind, pure,
    Except.pure]

/-- Both the text and the sorted value give back the document. A field that can be emptied stands
    there as null when it is cleared and not at all when it is kept, and a list that is set stands
    there even without items. -/
theorem decode_encode (d : AlarmDocument) :
    ofText d.json.text = .ok d ∧ ofJson d.json = .ok d ∧ ofJson d.json.sorted = .ok d ∧
      d.json.get? "sticky-memo" = d.snapshot.stickyMemo.written MemoSummary.json ∧
      d.json.get? "journal-memo" = d.snapshot.journalMemo.written MemoSummary.json ∧
      d.json.get? "ack-user" = d.snapshot.ackUser.written .str ∧
      d.json.get? "ack-time" = d.snapshot.ackTime.written int64Json ∧
      d.json.get? "related-alarm-ids" =
        d.snapshot.relatedIds.map (fun is => .arr (is.map int32Json)) ∧
      d.json.get? "related-alarm-reduction-keys" = d.snapshot.relatedKeys.map strings ∧
      d.json.get? "related-alarms" =
        d.snapshot.related.map (fun rs => .arr (rs.map RelatedSummary.json)) := by
  have snapshot : ∀ f ∈ Snapshot.fields, d.json.get? f.name = f.value d.snapshot := by
    intro f member
    exact d.get_written
      (List.mem_append_left _ (List.mem_append_right _ (List.mem_map_of_mem member)))
  simp only [Snapshot.fields, List.forall_mem_cons] at snapshot
  obtain ⟨_, _, _, _, _, _, _, _, _, _, sticky, journal, user, time, _, ids, keys, related, _⟩ :=
    snapshot
  have sorted : Reordered d.json d.json.sorted := d.json_holds reordered_hereditary
  exact ⟨d.decoded_text, d.decoded_in_any_order (.same _), d.decoded_in_any_order sorted, sticky,
    journal, user, time, ids, keys, related⟩

end AlarmDocument
end AlarmHistory
