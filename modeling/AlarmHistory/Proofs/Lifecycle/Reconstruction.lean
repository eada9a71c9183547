import AlarmHistory.Lifecycle.Transition
import AlarmHistory.Proofs.Lifecycle.Roster
import AlarmHistory.Proofs.Past.Lookback

/- The stored document of an alarm tells what the alarm was at every time since its creation. The
   store is left out: patches are merged in the order in which they are made. Only the values that
   a log keeps are told; memos have a log too, but no view reads it. -/
namespace AlarmHistory
open Lifecycle Past

/-- A transition, the alarm after it, and the clock's time at its recording. -/
structure Callback where
  transition : Transition
  alarm : Alarm
  time : Int64
  deriving Repr

def Callback.patch (r : Callback) (node : Option NodeSummary) : AlarmDocument :=
  ⟨r.alarm.header r.time, r.transition.snapshot r.alarm node r.time,
    r.transition.logs r.alarm r.time⟩

/-- One alarm from its creation on. Callbacks are in the order of the calls. -/
structure Life where
  birth : Alarm
  born : Int64
  callbacks : List Callback
  deriving Repr

def AlarmDocument.afterCallbacks (stored : AlarmDocument) (cache : NodeCache) :
    List Callback → Except Rejection AlarmDocument
  | [] => .ok stored
  | r :: rs =>
    match r.transition.patch r.alarm r.time cache with
    | (.error rejection, _) => .error rejection
    | (.ok patch, cache) => (stored.merge patch).afterCallbacks cache rs

def Life.stored (l : Life) (cache : NodeCache) : Except Rejection AlarmDocument :=
  match Transition.created.patch l.birth l.born cache with
  | (.error rejection, _) => .error rejection
  | (.ok patch, cache) => patch.afterCallbacks cache l.callbacks

def alarmAt (time : Int64) (current : Alarm) : List Callback → Alarm
  | [] => current
  | r :: rs => if r.time ≤ time then alarmAt time r.alarm rs else current

def Life.alarmAt (l : Life) (time : Int64) : Alarm := AlarmHistory.alarmAt time l.birth l.callbacks

def Alarm.relatedNames (a : Alarm) : List Entry := names a.related

def Alarm.relatedKeys (a : Alarm) : List String := a.relatedNames.map Entry.key

def SameAck (a b : Alarm) : Prop := a.ackUser = b.ackUser ∧ a.ackTime = b.ackTime

/-- The same ids under the same keys; order, repeats and all else about them may differ. -/
def SameNames (as bs : List Alarm) : Prop := ∀ e, e ∈ names as ↔ e ∈ names bs

/-- A callback is truthful if it passes the values from before, and if severity, acknowledgement and
    related alarms have changed at most where it says so. A reduction may change all of them. -/
def Transition.Truthful (t : Transition) (before after : Alarm) : Prop :=
  match t with
  | .reduced b =>
    b.severity = before.severity ∧ SameAck b before ∧ SameNames b.related before.related
  | .severityUpdated previous =>
    previous = some before.severity ∧ SameAck after before ∧ SameNames after.related before.related
  | .acknowledged user time | .unacknowledged user time =>
    user = before.ackUser ∧ time = before.ackTime ∧ after.severity = before.severity ∧
      SameNames after.related before.related
  | .relatedUpdated previous =>
    SameNames previous before.related ∧ after.severity = before.severity ∧ SameAck after before
  | .created | .archived _ | .deleted | .memoUpdated _ _ _ _ | .memoDeleted _ _ =>
    after.severity = before.severity ∧ SameAck after before ∧
      SameNames after.related before.related

/-- Callbacks that follow an alarm's state at a time: accepted, truthful, and never back in time. -/
def Follows (before : Alarm) (now : Int64) : List Callback → Prop
  | [] => True
  | r :: rs => r.alarm.rejection? = none ∧ r.transition.Truthful before r.alarm ∧ now ≤ r.time ∧
      Follows r.alarm r.time rs

def Life.names (l : Life) : List Entry :=
  l.birth.relatedNames ++ l.callbacks.flatMap fun r => r.alarm.relatedNames

structure Life.Faithful (l : Life) : Prop where
  accepted : l.birth.rejection? = none
  follows : Follows l.birth l.born l.callbacks
  one_to_one : OneToOne l.names

structure AlarmDocument.Tracks (d : AlarmDocument) (a : Alarm) : Prop where
  severity : d.severity = some a.severity
  ackUser : d.ackUser = a.ackUser
  ackTime : d.ackTime = a.ackTime
  related : ∀ key, key ∈ d.snapshot.currentRelatedKeys ↔ key ∈ a.relatedKeys

/-- No log that a view reads has an entry after the time. -/
structure AlarmDocument.Settled (d : AlarmDocument) (now : Int64) : Prop where
  severity : ∀ c ∈ d.logs.severity, c.time ≤ now
  ack : ∀ c ∈ d.logs.ack, c.time ≤ now
  related : ∀ c ∈ d.logs.related, c.time ≤ now

structure ChangeLogs.Record (logs : ChangeLogs) (now : Int64) (before after : Alarm) : Prop where
  severity : ∀ c ∈ logs.severity, c.time = now ∧ c.severity = some before.severity
  severity_quiet : logs.severity = [] → after.severity = before.severity
  ack : ∀ c ∈ logs.ack, c.time = now ∧ c.ackUser = before.ackUser ∧ c.ackTime = before.ackTime
  ack_quiet : logs.ack = [] → SameAck after before
  related : ∀ c ∈ logs.related, c.time = now ∧
    c.removal = decide (c.reductionKey ∈ before.relatedKeys)
  related_quiet : ∀ key, (∀ c ∈ logs.related, c.reductionKey ≠ key) →
    (key ∈ after.relatedKeys ↔ key ∈ before.relatedKeys)

structure AlarmView.Shows (v : AlarmView) (a : Alarm) : Prop where
  severity : v.severity = some a.severity
  ackUser : v.ackUser = a.ackUser
  ackTime : v.ackTime = a.ackTime
  related : ∀ key, v.isRelated key = true ↔ key ∈ a.relatedKeys

theorem severity_of_id (s : Severity) : Severity.ofId? s.id = some s := by
  cases s <;> rfl

theorem previous_severity (now : Int64) (s : Severity) :
    (SeverityChange.ofPrevious now (some s)).severity = some s := severity_of_id s

theorem of_option_value (o : Option α) : (Edit.ofOption o).value? = o := by
  cases o <;> rfl

theorem merged_edit_value (stored : Edit α) (o : Option α) :
    (stored.merge (.ofOption o)).value? = o := by
  cases o <;> rfl

theorem same_names_keys {as bs : List Alarm} (same : SameNames as bs) (key : String) :
    key ∈ (names as).map Entry.key ↔ key ∈ (names bs).map Entry.key := by
  simp only [List.mem_map]
  exact exists_congr fun e => and_congr_left fun _ => same e

theorem snapshot_related_keys (a : Alarm) (node : Option NodeSummary) (key : String) :
    key ∈ (a.snapshot node).currentRelatedKeys ↔ key ∈ a.relatedKeys := by
  simp [Alarm.snapshot, Snapshot.currentRelatedKeys, Alarm.relatedSummary, Alarm.relatedKeys,
    Alarm.relatedNames, names]

theorem full_patch_tracks (a : Alarm) (node : Option NodeSummary) (header : Header)
    (logs : ChangeLogs) : AlarmDocument.Tracks ⟨header, a.snapshot node, logs⟩ a where
  severity := severity_of_id a.severity
  ackUser := of_option_value a.ackUser
  ackTime := of_option_value a.ackTime
  related := snapshot_related_keys a node

theorem same_names_subset {as bs : List Alarm} (same : SameNames as bs) {es : List Entry}
    (sub : names bs ⊆ es) : names as ⊆ es := by
  intro e member
  exact sub ((same e).mp member)

theorem AlarmDocument.Tracks.unchanged {d : AlarmDocument} {before after : Alarm}
    (tracks : d.Tracks before) (severity : after.severity = before.severity)
    (ack : SameAck after before) (related : SameNames after.related before.related) :
    d.Tracks after where
  severity := tracks.severity.trans (by rw [severity])
  ackUser := tracks.ackUser.trans ack.1.symm
  ackTime := tracks.ackTime.trans ack.2.symm
  related key := (tracks.related key).trans (same_names_keys related key).symm

theorem AlarmDocument.Tracks.contains {d : AlarmDocument} {a : Alarm} (tracks : d.Tracks a)
    (key : String) :
    d.snapshot.currentRelatedKeys.contains key = decide (key ∈ a.relatedKeys) := by
  rw [List.contains_eq_mem]
  exact decide_eq_decide.mpr (tracks.related key)

section Patch
variable {before after : Alarm} {t : Transition} (now : Int64)

theorem merge_tracks {d : AlarmDocument} (node : Option NodeSummary) (tracks : d.Tracks before)
    (truth : t.Truthful before after) :
    (d.merge ⟨after.header now, t.snapshot after node now, t.logs after now⟩).Tracks after := by
  have full : ∀ logs, (d.merge ⟨after.header now, after.snapshot node, logs⟩).Tracks after :=
    fun logs => ⟨severity_of_id after.severity, merged_edit_value _ after.ackUser,
      merged_edit_value _ after.ackTime, snapshot_related_keys after node⟩
  cases t with
  | created | reduced _ | relatedUpdated _ => exact full _
  | deleted => exact ⟨(full {}).severity, (full {}).ackUser, (full {}).ackTime, (full {}).related⟩
  | severityUpdated previous =>
    obtain ⟨_, ⟨user, time⟩, related⟩ := truth
    exact ⟨severity_of_id after.severity, tracks.ackUser.trans user.symm,
      tracks.ackTime.trans time.symm,
      fun key => (tracks.related key).trans (same_names_keys related key).symm⟩
  | acknowledged user time | unacknowledged user time =>
    obtain ⟨_, _, severity, related⟩ := truth
    exact ⟨tracks.severity.trans (by rw [severity]), merged_edit_value _ after.ackUser,
      merged_edit_value _ after.ackTime,
      fun key => (tracks.related key).trans (same_names_keys related key).symm⟩
  | archived _ =>
    have kept := tracks.unchanged truth.1 truth.2.1 truth.2.2
    exact ⟨kept.severity, kept.ackUser, kept.ackTime, kept.related⟩
  | memoUpdated kind _ _ _ | memoDeleted kind _ =>
    have kept := tracks.unchanged truth.1 truth.2.1 truth.2.2
    cases kind <;> exact ⟨kept.severity, kept.ackUser, kept.ackTime, kept.related⟩

theorem reduction_severities (b a : Alarm) :
    (∀ c ∈ (Transition.reductionLogs b a now).severity,
      c = .ofPrevious now (some b.severity)) ∧
    ((Transition.reductionLogs b a now).severity = [] → a.severity = b.severity) := by
  simp only [Transition.reductionLogs]
  split
  · rename_i same
    exact ⟨by simp, fun _ => same.symm⟩
  · exact ⟨by simp, by simp⟩

theorem reduction_acks (b a : Alarm) :
    (∀ c ∈ (Transition.reductionLogs b a now).ack, c = ⟨now, b.ackUser, b.ackTime⟩) ∧
    ((Transition.reductionLogs b a now).ack = [] → SameAck a b) := by
  simp only [Transition.reductionLogs]
  split
  · rename_i same
    exact ⟨by simp, fun _ => ⟨same.1.symm, same.2.symm⟩⟩
  · exact ⟨by simp, by simp⟩

theorem quiet_record (severity : after.severity = before.severity) (ack : SameAck after before)
    (related : SameNames after.related before.related) :
    ChangeLogs.Record {} now before after where
  severity := by simp
  severity_quiet _ := severity
  ack := by simp
  ack_quiet _ := ack
  related := by simp
  related_quiet key _ := same_names_keys related key

variable {es : List Entry} (one : OneToOne es) (old : before.relatedNames ⊆ es)
  (new : after.relatedNames ⊆ es)
include one old new

theorem related_record {previous : List Alarm} (same : SameNames previous before.related) :
    ∀ c ∈ relatedChanges now previous after.related,
      c.time = now ∧ c.removal = decide (c.reductionKey ∈ before.relatedKeys) := by
  intro c member
  refine ⟨related_change_stamped c member, ?_⟩
  rw [related_change_previous one (same_names_subset same old) new member]
  exact decide_eq_decide.mpr (same_names_keys same c.reductionKey)

theorem related_record_quiet {previous : List Alarm} (same : SameNames previous before.related)
    (key : String) (none : ∀ c ∈ relatedChanges now previous after.related, c.reductionKey ≠ key) :
    key ∈ after.relatedKeys ↔ key ∈ before.relatedKeys :=
  (key_unchanged one (same_names_subset same old) new none).trans (same_names_keys same key)

theorem patch_record (truth : t.Truthful before after) :
    (t.logs after now).Record now before after := by
  cases t with
  | created | deleted | archived _ => exact quiet_record now truth.1 truth.2.1 truth.2.2
  | memoUpdated kind _ _ _ | memoDeleted kind _ =>
    have quiet := quiet_record now truth.1 truth.2.1 truth.2.2
    exact ⟨quiet.severity, quiet.severity_quiet, quiet.ack, quiet.ack_quiet, quiet.related,
      quiet.related_quiet⟩
  | severityUpdated previous =>
    obtain ⟨rfl, ack, related⟩ := truth
    refine ⟨?_, by simp [Transition.logs], by simp [Transition.logs], fun _ => ack,
      by simp [Transition.logs], fun key _ => same_names_keys related key⟩
    intro c member
    rw [List.mem_singleton.mp member]
    exact ⟨rfl, previous_severity now before.severity⟩
  | acknowledged user time | unacknowledged user time =>
    obtain ⟨rfl, rfl, severity, related⟩ := truth
    refine ⟨by simp [Transition.logs], fun _ => severity, ?_, by simp [Transition.logs],
      by simp [Transition.logs], fun key _ => same_names_keys related key⟩
    intro c member
    rw [List.mem_singleton.mp member]
    exact ⟨rfl, rfl, rfl⟩
  | relatedUpdated previous =>
    obtain ⟨same, severity, ack⟩ := truth
    exact ⟨by simp [Transition.logs], fun _ => severity, by simp [Transition.logs], fun _ => ack,
      related_record now one old new same, related_record_quiet now one old new same⟩
  | reduced b =>
    obtain ⟨severity, ⟨user, time⟩, same⟩ := truth
    have severities := reduction_severities now b after
    have acks := reduction_acks now b after
    refine ⟨?_, fun none => (severities.2 none).trans severity, ?_,
      fun none => ⟨(acks.2 none).1.trans user, (acks.2 none).2.trans time⟩,
      related_record now one old new same, related_record_quiet now one old new same⟩
    · intro c member
      rw [severities.1 c member, severity]
      exact ⟨rfl, previous_severity now before.severity⟩
    · intro c member
      rw [acks.1 c member]
      exact ⟨rfl, user, time⟩

end Patch

theorem settled_shows {d : AlarmDocument} {now time : Int64} {a : Alarm} (settled : d.Settled now)
    (tracks : d.Tracks a) (reached : now ≤ time) : AlarmView.Shows ⟨d, time⟩ a where
  severity := by
    rw [AlarmView.severity_told, told_settled]
    · exact tracks.severity
    · exact fun c member => Int64.le_trans (settled.severity c member) reached
  ackUser := by
    rw [AlarmView.ack_user_told, told_settled]
    · exact tracks.ackUser
    · exact fun c member => Int64.le_trans (settled.ack c member) reached
  ackTime := by
    rw [AlarmView.ack_time_told, told_settled]
    · exact tracks.ackTime
    · exact fun c member => Int64.le_trans (settled.ack c member) reached
  related key := by
    rw [AlarmView.related_told, told_settled]
    · exact List.contains_iff_mem.trans (tracks.related key)
    · intro c member
      exact Int64.le_trans (settled.related c (List.mem_filter.mp member).1) reached

section Step
variable {d p : AlarmDocument} {now next : Int64} {before after : Alarm}

theorem AlarmDocument.Settled.later (settled : d.Settled now) (later : now ≤ next) :
    d.Settled next where
  severity c member := Int64.le_trans (settled.severity c member) later
  ack c member := Int64.le_trans (settled.ack c member) later
  related c member := Int64.le_trans (settled.related c member) later

theorem merge_settled (settled : d.Settled next)
    (record : p.logs.Record next before after) : (d.merge p).Settled next where
  severity c member := by
    rcases List.mem_append.mp member with old | new
    · exact settled.severity c old
    · rw [(record.severity c new).1]
      exact Int64.le_refl next
  ack c member := by
    rcases List.mem_append.mp member with old | new
    · exact settled.ack c old
    · rw [(record.ack c new).1]
      exact Int64.le_refl next
  related c member := by
    rcases List.mem_append.mp member with old | new
    · exact settled.related c old
    · rw [(record.related c new).1]
      exact Int64.le_refl next

theorem merge_keeps_past (settled : d.Settled next) (tracks : d.Tracks before)
    (tracks' : (d.merge p).Tracks after) (record : p.logs.Record next before after)
    {time : Int64} (past : time < next) {a : Alarm} (shows : AlarmView.Shows ⟨d, time⟩ a) :
    AlarmView.Shows ⟨d.merge p, time⟩ a where
  severity := by
    rw [← shows.severity, AlarmView.severity_told, AlarmView.severity_told]
    exact told_before d.logs.severity p.logs.severity next time _ _ _ settled.severity
      (fun c member => (record.severity c member).1)
      (fun c member => (record.severity c member).2.trans tracks.severity.symm)
      (fun none => by rw [tracks'.severity, tracks.severity, record.severity_quiet none]) past
  ackUser := by
    rw [← shows.ackUser, AlarmView.ack_user_told, AlarmView.ack_user_told]
    exact told_before d.logs.ack p.logs.ack next time _ _ _ settled.ack
      (fun c member => (record.ack c member).1)
      (fun c member => (record.ack c member).2.1.trans tracks.ackUser.symm)
      (fun none => by rw [tracks'.ackUser, tracks.ackUser, (record.ack_quiet none).1]) past
  ackTime := by
    rw [← shows.ackTime, AlarmView.ack_time_told, AlarmView.ack_time_told]
    exact told_before d.logs.ack p.logs.ack next time _ _ _ settled.ack
      (fun c member => (record.ack c member).1)
      (fun c member => (record.ack c member).2.2.trans tracks.ackTime.symm)
      (fun none => by rw [tracks'.ackTime, tracks.ackTime, (record.ack_quiet none).2]) past
  related key := by
    have keys : (d.merge p).logs.related.filter (fun c => c.reductionKey == key) =
        d.logs.related.filter (fun c => c.reductionKey == key) ++
          p.logs.related.filter (fun c => c.reductionKey == key) := List.filter_append ..
    rw [← shows.related key, AlarmView.related_told, AlarmView.related_told, keys,
      tracks.contains key, tracks'.contains key]
    rw [told_before _ _ next time _ _ _ _ _ _ _ past]
    · intro c member
      exact settled.related c (List.mem_filter.mp member).1
    · intro c member
      exact (record.related c (List.mem_filter.mp member).1).1
    · intro c member
      obtain ⟨new, same⟩ := List.mem_filter.mp member
      rw [(record.related c new).2, beq_iff_eq.mp same]
    · intro none
      refine decide_eq_decide.mpr (record.related_quiet key fun c new same => ?_)
      exact (List.filter_eq_nil_iff.mp none) c new (beq_iff_eq.mpr same)

end Step

theorem birth_settled (header : Header) (snapshot : Snapshot) (now : Int64) :
    AlarmDocument.Settled ⟨header, snapshot, {}⟩ now :=
  ⟨by simp, by simp, by simp⟩

theorem accepted_patch {r : Callback} (accepted : r.alarm.rejection? = none)
    {cache cache' : NodeCache} {node : Option NodeSummary}
    (asked : r.transition.nodeFor r.alarm cache = (node, cache')) :
    r.transition.patch r.alarm r.time cache = (.ok (r.patch node), cache') := by
  simp only [Transition.patch, accepted, asked, Callback.patch]

/-- The run: each callback leaves the views of earlier times alone, and from its own time on the
    views show what it has reported, up to the next one. -/
theorem callbacks_shown {es : List Entry} (one : OneToOne es) (callbacks : List Callback)
    {stored : AlarmDocument} (cache : NodeCache) {before : Alarm} {now : Int64}
    (settled : stored.Settled now) (tracks : stored.Tracks before)
    (follows : Follows before now callbacks) (named : before.relatedNames ⊆ es)
    (all_named : callbacks.flatMap (fun r => r.alarm.relatedNames) ⊆ es) :
    ∃ d, stored.afterCallbacks cache callbacks = .ok d ∧ ∀ time,
      (∀ a, time < now → AlarmView.Shows ⟨stored, time⟩ a → AlarmView.Shows ⟨d, time⟩ a) ∧
      (now ≤ time → AlarmView.Shows ⟨d, time⟩ (alarmAt time before callbacks)) := by
  induction callbacks generalizing stored cache before now with
  | nil => exact ⟨stored, rfl, fun time => ⟨fun _ _ shows => shows, settled_shows settled tracks⟩⟩
  | cons r rs ih =>
    obtain ⟨accepted, truth, later, rest⟩ := follows
    have now_named : r.alarm.relatedNames ⊆ es := fun e member => all_named (by simp [member])
    have later_named : rs.flatMap (fun r => r.alarm.relatedNames) ⊆ es :=
      fun e member => all_named (List.mem_append_right _ member)
    obtain ⟨node, cache', asked⟩ : ∃ node cache', r.transition.nodeFor r.alarm cache =
      (node, cache') := ⟨_, _, rfl⟩
    have record : (r.patch node).logs.Record r.time before r.alarm :=
      patch_record r.time one named now_named truth
    have tracks' : (stored.merge (r.patch node)).Tracks r.alarm :=
      merge_tracks r.time node tracks truth
    have present := settled.later later
    obtain ⟨d, run, shown⟩ := ih cache' (merge_settled present record) tracks' rest now_named
      later_named
    have kept : ∀ time a, time < r.time → AlarmView.Shows ⟨stored, time⟩ a →
        AlarmView.Shows ⟨d, time⟩ a := fun time a past shows =>
      (shown time).1 a past (merge_keeps_past present tracks tracks' record past shows)
    refine ⟨d, ?_, fun time => ⟨fun a past => kept time a ?_, fun reached => ?_⟩⟩
    · simpa only [AlarmDocument.afterCallbacks, accepted_patch accepted asked] using run
    · exact Std.lt_of_lt_of_le past later
    · simp only [alarmAt]
      split
      · rename_i reported
        exact (shown time).2 reported
      · rename_i before_callback
        have unreported := Int64.not_le.mp before_callback
        exact kept time before unreported (settled_shows settled tracks reached)

theorem life_reconstructed (l : Life) (faithful : l.Faithful) (cache : NodeCache) :
    ∃ d, l.stored cache = .ok d ∧ ∀ time, l.born ≤ time →
      AlarmView.severity ⟨d, time⟩ = some (l.alarmAt time).severity ∧
      AlarmView.ackUser ⟨d, time⟩ = (l.alarmAt time).ackUser ∧
      AlarmView.ackTime ⟨d, time⟩ = (l.alarmAt time).ackTime ∧
      ∀ key, key ∈ AlarmView.relatedKeys ⟨d, time⟩ ↔
        ∃ a ∈ (l.alarmAt time).related, a.reductionKey = key := by
  let birth : Callback := ⟨.created, l.birth, l.born⟩
  obtain ⟨node, cache', asked⟩ : ∃ node cache', Transition.created.nodeFor l.birth cache =
    (node, cache') := ⟨_, _, rfl⟩
  have first : Transition.created.patch l.birth l.born cache = (.ok (birth.patch node), cache') :=
    accepted_patch (r := birth) faithful.accepted asked
  have tracks : (birth.patch node).Tracks l.birth := full_patch_tracks l.birth node _ _
  obtain ⟨d, run, shown⟩ := callbacks_shown faithful.one_to_one l.callbacks cache'
    (birth_settled _ _ l.born) tracks faithful.follows (List.subset_append_left _ _)
    (List.subset_append_right _ _)
  refine ⟨d, ?_, fun time reached => ?_⟩
  · rw [Life.stored, first]
    exact run
  · have shows := (shown time).2 reached
    refine ⟨shows.severity, shows.ackUser, shows.ackTime, fun key => ?_⟩
    rw [AlarmView.related_keys_member, shows.related key]
    simp [Alarm.relatedKeys, Alarm.relatedNames, names, Life.alarmAt]

theorem short_life_reconstructed :
    let quiet := Alarm.ofIdentity 7 "rk" 5
    let related := { quiet with related := [Alarm.ofIdentity 2 "r2" 1] }
    let raised := { related with severity := .major }
    let reduced := { raised with
      severity := .cleared, ackUser := some "ann", ackTime := some 30
      related := [Alarm.ofIdentity 3 "r3" 1] }
    let l : Life := ⟨quiet, 10, [⟨.relatedUpdated [], related, 20⟩,
      ⟨.severityUpdated (some .indeterminate), raised, 20⟩, ⟨.reduced raised, reduced, 30⟩,
      ⟨.deleted, reduced, 40⟩]⟩
    l.Faithful ∧ ∃ d, l.stored ⟨4, []⟩ = .ok d ∧ ∀ time, l.born ≤ time →
      AlarmView.severity ⟨d, time⟩ = some (l.alarmAt time).severity ∧
      AlarmView.ackUser ⟨d, time⟩ = (l.alarmAt time).ackUser ∧
      AlarmView.ackTime ⟨d, time⟩ = (l.alarmAt time).ackTime ∧
      ∀ key, key ∈ AlarmView.relatedKeys ⟨d, time⟩ ↔
        ∃ a ∈ (l.alarmAt time).related, a.reductionKey = key := by
  intro quiet related raised reduced l
  have faithful : l.Faithful := by
    refine ⟨by decide, ?_, ?_⟩
    · have same : ∀ as, SameNames as as := fun _ _ => Iff.rfl
      have ack : ∀ a, SameAck a a := fun _ => ⟨rfl, rfl⟩
      exact ⟨by decide, ⟨same _, rfl, ack _⟩, by decide, by decide, ⟨rfl, ack _, same _⟩,
        by decide, by decide, ⟨rfl, ack _, same _⟩, by decide, by decide, ⟨rfl, ack _, same _⟩,
        by decide, trivial⟩
    · unfold OneToOne
      decide
  exact ⟨faithful, life_reconstructed l faithful ⟨4, []⟩⟩

end AlarmHistory
