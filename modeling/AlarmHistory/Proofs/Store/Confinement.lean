import AlarmHistory.Proofs.Store.FullSnapshot

/- What a patch touches that is not one of the whole alarm. Such a patch is about one matter, which
   has its own fields of the snapshot and, except for archiving, its own log. Whatever the store
   holds of the alarm, all else of it stays. -/
namespace AlarmHistory

inductive Matter where
  | ack
  | severity
  | archive
  | memo (kind : MemoKind)
  deriving DecidableEq, Repr

inductive LogEntry where
  | severity (change : SeverityChange)
  | ack (change : AckChange)
  | memo (change : MemoChange)
  deriving DecidableEq, Repr

namespace Severity

theorem id_injective : Function.Injective Severity.id := by
  intro v w same
  have known := severity_of_id v
  rw [same, severity_of_id] at known
  exact (Option.some.inj known).symm

theorem label_injective : Function.Injective Severity.label := by
  intro v w same
  cases v <;> cases w <;> first | rfl | simp [label] at same

end Severity

namespace LogEntry

def matter : LogEntry → Matter
  | severity _ => .severity
  | ack _ => .ack
  | memo change => .memo change.kind

def logs : LogEntry → ChangeLogs
  | severity change => { severity := [change] }
  | ack change => { ack := [change] }
  | memo change => { memo := [change] }

end LogEntry

namespace Transition

def matter? : Transition → Option Matter
  | acknowledged _ _ | unacknowledged _ _ => some .ack
  | severityUpdated _ => some .severity
  | archived _ => some .archive
  | memoUpdated kind _ _ _ | memoDeleted kind _ => some (.memo kind)
  | created | reduced _ | deleted | relatedUpdated _ => none

theorem matter_none_iff (t : Transition) : t.matter? = none ↔ t.isFull = true := by
  cases t <;> simp [matter?, isFull]

/-- The values from before, as the caller has passed them. -/
def entry? (t : Transition) (now : Int64) : Option LogEntry :=
  match t with
  | acknowledged user time | unacknowledged user time => some (.ack ⟨now, user, time⟩)
  | severityUpdated previous =>
    some (.severity ⟨now, previous.map Severity.id, previous.map Severity.label⟩)
  | memoUpdated kind body author updated => some (.memo ⟨now, kind, body, author, updated, false⟩)
  | memoDeleted kind memo =>
    some (.memo ⟨now, kind, memo.bind Memo.body, memo.bind Memo.author, memo.bind Memo.updated, true⟩)
  | _ => none

end Transition

namespace ChangeLogs

def push (c : ChangeLogs) : LogEntry → ChangeLogs
  | .severity change => { c with severity := c.severity ++ [change] }
  | .ack change => { c with ack := c.ack ++ [change] }
  | .memo change => { c with memo := c.memo ++ [change] }

theorem append_entry (c : ChangeLogs) (e : LogEntry) : c ++ e.logs = c.push e := by
  change c.append e.logs = c.push e
  cases e <;> simp [append, push, LogEntry.logs]

end ChangeLogs

namespace Snapshot

def without (s : Snapshot) : Matter → Snapshot
  | .ack => { s with ackUser := .keep, ackTime := .keep }
  | .severity => { s with severityId := none, severityLabel := none }
  | .archive => { s with archived := none, archivedTime := none }
  | .memo .sticky => { s with stickyMemo := .keep }
  | .memo .journal => { s with journalMemo := .keep }

/-- The fields of the transition's matter read as the alarm has them now; a deleted memo is none. -/
def Tells (s : Snapshot) (t : Transition) (a : Alarm) (now : Int64) : Prop :=
  match t with
  | .acknowledged _ _ | .unacknowledged _ _ =>
    s.ackUser.value? = a.ackUser ∧ s.ackTime.value? = a.ackTime
  | .severityUpdated _ =>
    s.severityId = some a.severity.id ∧ s.severityLabel = some a.severity.label ∧
      ∀ v : Severity, v.id = a.severity.id ∨ v.label = a.severity.label → v = a.severity
  | .archived _ => s.archived = some a.archived ∧ s.archivedTime = some now
  | .memoUpdated .sticky _ _ _ => s.stickyMemo.value? = a.stickyMemo.map Memo.shown
  | .memoUpdated .journal _ _ _ => s.journalMemo.value? = a.journalMemo.map Memo.shown
  | .memoDeleted .sticky _ => s.stickyMemo.value? = none
  | .memoDeleted .journal _ => s.journalMemo.value? = none
  | .created | .reduced _ | .deleted | .relatedUpdated _ => False

theorem merge_without (s p : Snapshot) (m : Matter) :
    (s.merge p).without m = (s.without m).merge (p.without m) := by
  cases m with
  | ack | severity | archive => rfl
  | memo kind => cases kind <;> rfl

theorem merge_empty (s : Snapshot) : s.merge {} = s := rfl

end Snapshot

/-- The document is the stored one but for what the transition reports. -/
structure AlarmDocument.Reports (d stored : AlarmDocument) (t : Transition) (m : Matter) (a : Alarm)
    (now : Int64) : Prop where
  header : d.header = ⟨a.id, a.reductionKey, a.firstEventTime, a.lastEventTime, now⟩
  own : d.snapshot.Tells t a now
  others : d.snapshot.without m = stored.snapshot.without m
  logs : d.logs = (t.entry? now).elim stored.logs stored.logs.push

section Patch
variable {t : Transition} {m : Matter} (about : t.matter? = some m) (a : Alarm)
  (node : Option NodeSummary) (now : Int64)
include about

theorem patch_without : (t.snapshot a node now).without m = {} := by
  cases t with
  | created | reduced _ | deleted | relatedUpdated _ => cases about
  | acknowledged _ _ | unacknowledged _ _ | severityUpdated _ | archived _ =>
    cases about
    rfl
  | memoUpdated kind _ _ _ | memoDeleted kind _ =>
    cases about
    cases kind <;> rfl

theorem merged_others (stored : Snapshot) :
    (stored.merge (t.snapshot a node now)).without m = stored.without m := by
  rw [Snapshot.merge_without, patch_without about, Snapshot.merge_empty]

theorem merged_tells (stored : Snapshot) :
    (stored.merge (t.snapshot a node now)).Tells t a now := by
  cases t with
  | created | reduced _ | deleted | relatedUpdated _ => cases about
  | acknowledged _ _ | unacknowledged _ _ =>
    exact ⟨merged_edit_value _ a.ackUser, merged_edit_value _ a.ackTime⟩
  | severityUpdated _ =>
    exact ⟨rfl, rfl, fun v same => same.elim (Severity.id_injective ·) (Severity.label_injective ·)⟩
  | archived _ => exact ⟨rfl, rfl⟩
  | memoUpdated kind _ _ _ =>
    cases kind with
    | sticky => exact merged_edit_value stored.stickyMemo (a.stickyMemo.map Memo.shown)
    | journal => exact merged_edit_value stored.journalMemo (a.journalMemo.map Memo.shown)
  | memoDeleted kind _ => cases kind <;> rfl

theorem entry_matter :
    (t.entry? now).map LogEntry.matter = if m = .archive then none else some m := by
  cases t with
  | created | reduced _ | deleted | relatedUpdated _ => cases about
  | acknowledged _ _ | unacknowledged _ _ | severityUpdated _ | archived _ | memoUpdated _ _ _ _
  | memoDeleted _ _ =>
    cases about
    rfl

theorem entry_logs : t.logs a now = (t.entry? now).elim {} LogEntry.logs := by
  cases t with
  | created | reduced _ | deleted | relatedUpdated _ => cases about
  | acknowledged _ _ | unacknowledged _ _ | severityUpdated _ | archived _ | memoUpdated _ _ _ _
  | memoDeleted _ _ => rfl

theorem appended_entry (stored : ChangeLogs) :
    stored ++ t.logs a now = (t.entry? now).elim stored stored.push := by
  rw [entry_logs about]
  cases t.entry? now with
  | none => exact stored.append_nothing
  | some e => exact stored.append_entry e

theorem merge_reports (stored : AlarmDocument) :
    (stored.merge ⟨a.header now, t.snapshot a node now, t.logs a now⟩).Reports stored t m a now where
  header := rfl
  own := merged_tells about a node now stored.snapshot
  others := merged_others about a node now stored.snapshot
  logs := appended_entry about a now stored.logs

end Patch

namespace Store
open Bulk Json

/-- Whatever is stored of the alarm, only the fields of the transition's matter change, the log of
    that matter, if it has one, grows by one entry, and the rest is read back as it was. -/
theorem small_patch_confined {t : Transition} {m : Matter} (about : t.matter? = some m) {a : Alarm}
    (accepted : a.rejection? = none) (now : Int64) (cache : NodeCache) (target : Target)
    (position : Nat) {s : Sources} {h : Holdings} (shows : s.Shows h) {stored : AlarmDocument}
    (held : h (placeOf target a) = some stored) :
    ∃ patch after source d,
      t.patch a now cache = (.ok patch, cache) ∧
        Sources.bulk (body (actions target [(position, patch)])) s = some after ∧
        after (placeOf target a).key = some source ∧
        (∀ v, Reordered (.obj source) v → AlarmDocument.ofJson v = .ok d) ∧
        d.Reports stored t m a now ∧
        (t.entry? now).map LogEntry.matter = if m = .archive then none else some m := by
  have made : t.patch a now cache =
      (.ok ⟨a.header now, t.snapshot a none now, t.logs a now⟩, cache) := by
    have small : t.isFull = false := by
      rw [← Bool.not_eq_true, ← t.matter_none_iff, about]
      exact nofun
    simp only [Transition.patch, accepted, Transition.nodeFor, small]
  let patch : AlarmDocument := ⟨a.header now, t.snapshot a none now, t.logs a now⟩
  obtain ⟨after, sent, shown⟩ := Sources.patch_shows shows target position patch
  have onto : Action.carryOut h ⟨position, target.indexOf patch, patch.id, .merge patch⟩
      (placeOf target a) = some (stored.merge patch) :=
    (if_pos rfl).trans (congrArg (Work.onto · (.merge patch)) held)
  obtain ⟨source, there, read⟩ := shown.read onto
  exact ⟨patch, after, source, stored.merge patch, made, sent, there, read,
    merge_reports about a none now stored, entry_matter about now⟩

theorem withdrawn_ack_confined :
    let target : Target := ⟨"alarms", .monthly⟩
    let second := { Alarm.ofIdentity 7 "rk" 5 with description := some "up" }
    let first := { second with
      severity := .critical, description := some "down", ackUser := some "ann", ackTime := some 900 }
    let t : Transition := .unacknowledged (some "ann") (some 900)
    t.matter? = some .ack ∧ second.rejection? = none ∧
      ∃ stored s h, Sources.Shows s h ∧
        (Transition.created.patch first 1000 ⟨4, []⟩).1 = .ok stored ∧
        h (placeOf target second) = some stored ∧
        ∃ patch after source d,
          t.patch second 2000 ⟨4, []⟩ = (.ok patch, ⟨4, []⟩) ∧
            Sources.bulk (body (actions target [(0, patch)])) s = some after ∧
            after (placeOf target second).key = some source ∧
            (∀ v, Reordered (.obj source) v → AlarmDocument.ofJson v = .ok d) ∧
            d.ackUser = none ∧ d.ackTime = none ∧ d.severity = some .critical ∧
            d.snapshot.description = some "down" ∧
            d.logs = { ack := [⟨2000, some "ann", some 900⟩] } := by
  intro target second first t
  let stored : AlarmDocument := ⟨first.header 1000, first.snapshot none, {}⟩
  obtain ⟨s, _, shows⟩ := Sources.patch_shows Sources.empty_shows target 0 stored
  have accepted : second.rejection? = none := by decide
  have held : Action.carryOut (fun _ => none) ⟨0, target.indexOf stored, stored.id, .merge stored⟩
      (placeOf target second) = some stored := if_pos rfl
  obtain ⟨patch, after, source, d, made, sent, there, read, reports, _⟩ :=
    small_patch_confined (t := t) rfl accepted 2000 ⟨4, []⟩ target 0 shows held
  obtain ⟨user, time⟩ := reports.own
  have severity := congrArg Snapshot.severity reports.others
  have description := congrArg Snapshot.description reports.others
  exact ⟨rfl, accepted, stored, s, _, shows, rfl, held, patch, after, source, d, made, sent, there, read,
    user, time, severity, description, reports.logs⟩

end Store
end AlarmHistory
