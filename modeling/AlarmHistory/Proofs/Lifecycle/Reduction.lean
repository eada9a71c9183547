import AlarmHistory.Proofs.Lifecycle.Reconstruction

/- A reduction may change severity, acknowledgement and related alarms at once. It is recorded as one
   patch, or its changes are reported one by one with the same time. Then some values are logged that
   have not changed, but such an entry repeats what is told without it. -/
namespace AlarmHistory

namespace Past
variable {α β : Type} [Stamped α]

/-- New entries of one time that note a value as it was before. Without any it must still be so. -/
structure Notes (now : Int64) (read : α → β) (old new : β) (more : List α) : Prop where
  stamped : ∀ c ∈ more, Stamped.time c = now
  previous : ∀ c ∈ more, read c = old
  quiet : more = [] → new = old

namespace Notes
variable {now : Int64} {read : α → β} {old new : β} {c : α} (stamped : Stamped.time c = now)
  (previous : read c = old)
include stamped previous

theorem one : Notes now read old new [c] where
  stamped d member := by rw [List.mem_singleton.mp member, stamped]
  previous d member := by rw [List.mem_singleton.mp member, previous]
  quiet := nofun

theorem if_changed {same : Prop} [Decidable same] (quiet : same → new = old) :
    Notes now read old new (if same then [] else [c]) := by
  split
  · rename_i unchanged
    exact ⟨nofun, nofun, fun _ => quiet unchanged⟩
  · exact one stamped previous

end Notes

theorem told_either_way {log more other : List α} {now : Int64} {read : α → β} {old new : β}
    (settled : ∀ c ∈ log, Stamped.time c ≤ now) (notes : Notes now read old new more)
    (notes' : Notes now read old new other) (time : Int64) :
    told (log ++ more) time read new = told (log ++ other) time read new := by
  by_cases past : time < now
  · rw [told_before log more now time read old new settled notes.stamped notes.previous notes.quiet
        past,
      told_before log other now time read old new settled notes'.stamped notes'.previous
        notes'.quiet past]
  · have reached := Int64.not_lt.mp past
    have present {es : List α} (stamped : ∀ c ∈ es, Stamped.time c = now) :
        ∀ c ∈ log ++ es, Stamped.time c ≤ time := by
      intro c member
      rcases List.mem_append.mp member with before | here
      · exact Int64.le_trans (settled c before) reached
      · rw [stamped c here]
        exact reached
    rw [told_settled _ time read new (present notes.stamped),
      told_settled _ time read new (present notes'.stamped)]

end Past
open Past

def reportedAtOnce (before after : Alarm) (now : Int64) : List Callback :=
  [⟨.reduced before, after, now⟩]

def reportedSingly (before after : Alarm) (now : Int64) : List Callback :=
  [⟨.relatedUpdated before.related, after, now⟩,
    ⟨.severityUpdated (some before.severity), after, now⟩,
    ⟨.acknowledged before.ackUser before.ackTime, after, now⟩]

def allNoted (before after : Alarm) (now : Int64) : ChangeLogs where
  severity := [.ofPrevious now (some before.severity)]
  ack := [⟨now, before.ackUser, before.ackTime⟩]
  related := Lifecycle.relatedChanges now before.related after.related

theorem Edit.merge_again {α : Type} (stored : Edit α) (o : Option α) :
    (stored.merge (.ofOption o)).merge (.ofOption o) = stored.merge (.ofOption o) := by
  cases o <;> rfl

section Reports
variable {before after : Alarm} {now : Int64}

theorem single_patches_merged (stored : AlarmDocument) (node : Option NodeSummary) :
    ((stored.merge (Callback.patch ⟨.relatedUpdated before.related, after, now⟩ node)).merge
      (Callback.patch ⟨.severityUpdated (some before.severity), after, now⟩ none)).merge
      (Callback.patch ⟨.acknowledged before.ackUser before.ackTime, after, now⟩ none) =
    ⟨after.header now, stored.snapshot.merge (after.snapshot node),
      stored.logs ++ allNoted before after now⟩ := by
  have user := Edit.merge_again stored.snapshot.ackUser after.ackUser
  have time := Edit.merge_again stored.snapshot.ackTime after.ackTime
  simp only [AlarmDocument.merge, AlarmDocument.mk.injEq]
  refine ⟨rfl, ?_, ?_⟩
  · exact congrArg₂ (fun u t => { stored.snapshot.merge (after.snapshot node) with
      ackUser := u, ackTime := t }) user time
  · change ((stored.logs.append _).append _).append _ = stored.logs.append _
    simp [ChangeLogs.append, Callback.patch, Transition.logs, allNoted]

theorem callbacks_merge (accepted : after.rejection? = none) (stored : AlarmDocument)
    (cache : NodeCache) : ∃ node,
      stored.afterCallbacks cache (reportedAtOnce before after now) =
        .ok ⟨after.header now, stored.snapshot.merge (after.snapshot node),
          stored.logs ++ Transition.reductionLogs before after now⟩ ∧
      stored.afterCallbacks cache (reportedSingly before after now) =
        .ok ⟨after.header now, stored.snapshot.merge (after.snapshot node),
          stored.logs ++ allNoted before after now⟩ := by
  obtain ⟨node, cache', asked⟩ : ∃ node cache', (Transition.reduced before).nodeFor after cache =
    (node, cache') := ⟨_, _, rfl⟩
  have same : (Transition.relatedUpdated before.related).nodeFor after cache = (node, cache') := asked
  have minimal (t : Transition) (small : t.isFull = false) :
      t.nodeFor after cache' = (none, cache') := by
    simp [Transition.nodeFor, small]
  refine ⟨node, ?_, ?_⟩
  · simp only [reportedAtOnce, AlarmDocument.afterCallbacks,
      accepted_patch (r := ⟨.reduced before, after, now⟩) accepted asked]
    rfl
  · simp only [reportedSingly, AlarmDocument.afterCallbacks,
      accepted_patch (r := ⟨.relatedUpdated before.related, after, now⟩) accepted same,
      accepted_patch (r := ⟨.severityUpdated (some before.severity), after, now⟩) accepted
        (minimal _ rfl),
      accepted_patch (r := ⟨.acknowledged before.ackUser before.ackTime, after, now⟩) accepted
        (minimal _ rfl), single_patches_merged]

theorem severity_notes (before after : Alarm) (now : Int64) :
    Notes now SeverityChange.severity (some before.severity) (some after.severity)
      (Transition.reductionLogs before after now).severity ∧
    Notes now SeverityChange.severity (some before.severity) (some after.severity)
      (allNoted before after now).severity :=
  ⟨.if_changed rfl (previous_severity now before.severity) fun same => by rw [same],
    .one rfl (previous_severity now before.severity)⟩

theorem ack_notes {β : Type} (read : AckChange → β) {new : β} (quiet : before.ackUser =
      after.ackUser ∧ before.ackTime = after.ackTime →
        new = read ⟨now, before.ackUser, before.ackTime⟩) :
    Notes now read (read ⟨now, before.ackUser, before.ackTime⟩) new
      (Transition.reductionLogs before after now).ack ∧
    Notes now read (read ⟨now, before.ackUser, before.ackTime⟩) new
      (allNoted before after now).ack :=
  ⟨.if_changed rfl rfl quiet, .one rfl rfl⟩

theorem noted_same_views {stored : AlarmDocument} (settled : stored.Settled now) (header : Header)
    (node : Option NodeSummary) : AlarmDocument.SameViews
      ⟨header, stored.snapshot.merge (after.snapshot node),
        stored.logs ++ Transition.reductionLogs before after now⟩
      ⟨header, stored.snapshot.merge (after.snapshot node),
        stored.logs ++ allNoted before after now⟩ where
  severity time := by
    obtain ⟨notes, notes'⟩ := severity_notes before after now
    rw [AlarmView.severity_told, AlarmView.severity_told]
    have current : (stored.snapshot.merge (after.snapshot node)).severity = some after.severity :=
      severity_of_id after.severity
    simp only [AlarmDocument.severity, current]
    exact told_either_way settled.severity notes notes' time
  ackUser time := by
    obtain ⟨notes, notes'⟩ := ack_notes AckChange.ackUser fun same => same.1.symm
    rw [AlarmView.ack_user_told, AlarmView.ack_user_told]
    have current : (stored.snapshot.merge (after.snapshot node)).ackUser.value? = after.ackUser :=
      merged_edit_value _ after.ackUser
    simp only [AlarmDocument.ackUser, current]
    exact told_either_way settled.ack notes notes' time
  ackTime time := by
    obtain ⟨notes, notes'⟩ := ack_notes AckChange.ackTime fun same => same.2.symm
    rw [AlarmView.ack_time_told, AlarmView.ack_time_told]
    have current : (stored.snapshot.merge (after.snapshot node)).ackTime.value? = after.ackTime :=
      merged_edit_value _ after.ackTime
    simp only [AlarmDocument.ackTime, current]
    exact told_either_way settled.ack notes notes' time
  relatedKeys time := rfl

end Reports

/-- A reduction leaves the same snapshot and the same views as its changes reported one by one, though
    these always log a severity and an acknowledgement. -/
theorem reduction_agrees {stored : AlarmDocument} {now : Int64} (settled : stored.Settled now)
    (before : Alarm) {after : Alarm} (accepted : after.rejection? = none) (cache : NodeCache) :
    ∃ d e, stored.afterCallbacks cache (reportedAtOnce before after now) = .ok d ∧
      stored.afterCallbacks cache (reportedSingly before after now) = .ok e ∧
      d.header = e.header ∧ d.snapshot = e.snapshot ∧ d.SameViews e ∧
      d.logs = stored.logs ++ Transition.reductionLogs before after now ∧
      e.logs = stored.logs ++ allNoted before after now := by
  obtain ⟨node, once, singly⟩ := callbacks_merge accepted stored cache
  exact ⟨_, _, once, singly, rfl, rfl, noted_same_views settled _ node, rfl, rfl⟩

theorem acknowledging_reduction_agrees :
    let minor : SeverityChange := .ofPrevious 20 (some .minor)
    let stored : AlarmDocument :=
      ⟨⟨7, "rk", 5, 5, 20⟩, {}, { severity := [minor], ack := [⟨20, none, none⟩] }⟩
    let before := Alarm.ofIdentity 7 "rk" 5
    let after := { before with
      ackUser := some "ann", ackTime := some 20, related := [Alarm.ofIdentity 2 "r2" 1] }
    stored.Settled 20 ∧ after.rejection? = none ∧
      ∃ d e, stored.afterCallbacks ⟨4, []⟩ (reportedAtOnce before after 20) = .ok d ∧
        stored.afterCallbacks ⟨4, []⟩ (reportedSingly before after 20) = .ok e ∧
        d.SameViews e ∧ d.logs.severity = [minor] ∧
        e.logs.severity = [minor, .ofPrevious 20 (some .indeterminate)] := by
  intro minor stored before after
  have settled : stored.Settled 20 := ⟨by decide, by decide, by decide⟩
  have accepted : after.rejection? = none := by decide
  obtain ⟨d, e, once, singly, _, _, same, quiet, noted⟩ :=
    reduction_agrees settled before accepted ⟨4, []⟩
  refine ⟨settled, accepted, d, e, once, singly, same, ?_, ?_⟩
  · rw [quiet]
    rfl
  · rw [noted]
    rfl

end AlarmHistory
