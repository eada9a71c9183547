import AlarmHistory.Proofs.Past.Lookback
import AlarmHistory.Proofs.Store.Sources
import Mathlib.Data.List.Induction

/- Logs whose entries have come more than once and in another order. A look back finds the nearest
   entry after a time and, of several with one time, the first. So only the first entry of each time
   counts, and where that one is the same nothing that is told changes. -/
namespace AlarmHistory

namespace Past
variable {α κ : Type} [Stamped α] [DecidableEq κ]

theorem nearest_at_end {log : List α} {c : α} {time : Int64} (after : time < Stamped.time c)
    (nearer : ∀ d ∈ log, time < Stamped.time d → Stamped.time c < Stamped.time d) :
    (∀ d ∈ log ++ [c], time < Stamped.time d → Stamped.time c ≤ Stamped.time d) ∧
      (log ++ [c]).find? (fun d => Stamped.time d = Stamped.time c) = some c := by
  constructor
  · intro d member later
    rcases List.mem_append.mp member with old | new
    · exact Int64.le_of_lt (nearer d old later)
    · rw [List.mem_singleton.mp new]
      exact Int64.le_refl _
  · have other : ∀ d ∈ log, Stamped.time d ≠ Stamped.time c := by
      intro d old same
      have ahead := nearer d old (same ▸ after)
      rw [same] at ahead
      exact Int64.lt_irrefl ahead
    rw [List.find?_append, List.find?_eq_none.mpr (by simpa using other)]
    simp

theorem first_after_spec {log : List α} {time : Int64} {b : α}
    (found : firstAfter log time = some b) : time < Stamped.time b ∧
      (∀ c ∈ log, time < Stamped.time c → Stamped.time b ≤ Stamped.time c) ∧
      log.find? (fun c => Stamped.time c = Stamped.time b) = some b := by
  induction log using List.reverseRecOn generalizing b with
  | nil => cases found
  | append_singleton log c ih =>
    have stays {a : α} (before : firstAfter log time = some a)
        (ahead : time < Stamped.time c → Stamped.time a ≤ Stamped.time c) :
        time < Stamped.time a ∧
          (∀ d ∈ log ++ [c], time < Stamped.time d → Stamped.time a ≤ Stamped.time d) ∧
          (log ++ [c]).find? (fun d => Stamped.time d = Stamped.time a) = some a := by
      obtain ⟨past, nearest, first⟩ := ih before
      refine ⟨past, ?_, by rw [List.find?_append, first, Option.some_or]⟩
      intro d member later
      rcases List.mem_append.mp member with old | new
      · exact nearest d old later
      · rw [List.mem_singleton.mp new] at later ⊢
        exact ahead later
    rw [first_after_snoc] at found
    split at found
    · rename_i after
      cases before : firstAfter log time with
      | none =>
        rw [before] at found
        cases found
        have settled := (first_after_none_iff log time).mp before
        exact ⟨after, nearest_at_end after fun d old later =>
          absurd later (Int64.not_lt.mpr (settled d old))⟩
      | some a =>
        rw [before] at found
        simp only [earlier] at found
        split at found
        · rename_i ahead
          cases found
          exact stays before fun _ => ahead
        · rename_i behind
          cases found
          have nearest := (ih before).2.1
          exact ⟨after, nearest_at_end after fun d old later =>
            Int64.lt_of_lt_of_le (Int64.not_le.mp behind) (nearest d old later)⟩
    · rename_i early
      exact stays found fun later => absurd later early

theorem first_after_nearer {log more : List α} {time : Int64} {b : α}
    (stamps : ∀ c ∈ log, ∃ d ∈ more, Stamped.time d = Stamped.time c)
    (found : firstAfter log time = some b) :
    ∃ a, firstAfter more time = some a ∧ Stamped.time a ≤ Stamped.time b := by
  obtain ⟨member, after⟩ := first_after_member found
  obtain ⟨d, there, same⟩ := stamps b member
  rw [← same] at after ⊢
  cases nearest : firstAfter more time with
  | none =>
    have settled := (first_after_none_iff more time).mp nearest d there
    exact absurd after (Int64.not_lt.mpr settled)
  | some a => exact ⟨a, rfl, (first_after_spec nearest).2.1 d there after⟩

theorem first_after_congr {log more : List α}
    (firsts : ∀ t, more.find? (fun c => Stamped.time c = t) = log.find? fun c => Stamped.time c = t)
    (time : Int64) : firstAfter more time = firstAfter log time := by
  have stamps {log more : List α} (firsts : ∀ t, more.find? (fun c => Stamped.time c = t) =
      log.find? fun c => Stamped.time c = t) : ∀ c ∈ log, ∃ d ∈ more, Stamped.time d = Stamped.time c := by
    intro c member
    have known : (log.find? fun d => Stamped.time d = Stamped.time c).isSome :=
      List.find?_isSome.mpr ⟨c, member, by simp⟩
    rw [← firsts, List.find?_isSome] at known
    simpa using known
  have here := stamps firsts
  have there := stamps fun t => (firsts t).symm
  cases found : firstAfter log time with
  | none =>
    cases other : firstAfter more time with
    | none => rfl
    | some a =>
      obtain ⟨b, found', _⟩ := first_after_nearer there other
      exact absurd (found.symm.trans found') (by simp)
  | some b =>
    obtain ⟨a, other, le⟩ := first_after_nearer here found
    obtain ⟨b', found', ge⟩ := first_after_nearer there other
    cases found.symm.trans found'
    have same := Int64.le_antisymm le ge
    have first := (first_after_spec other).2.2
    rw [same, firsts] at first
    rw [other, ← first, (first_after_spec found).2.2]

/-- Every entry is there as often as before or more often, none is new, and of those with one mark the
    first is the same. -/
structure Redelivered (mark : α → κ) (log more : List α) : Prop where
  kept : log.Subperm more
  nothing_new : more ⊆ log
  firsts : ∀ k, more.find? (fun c => mark c = k) = log.find? fun c => mark c = k

namespace Redelivered

omit [Stamped α] in
theorem of_marks {mark : α → κ} {log more : List α} (kept : log.Subperm more)
    (nothing_new : more ⊆ log)
    (firsts : ∀ a ∈ log, more.find? (fun c => mark c = mark a) = log.find? fun c => mark c = mark a) :
    Redelivered mark log more := by
  refine ⟨kept, nothing_new, fun k => ?_⟩
  by_cases known : ∃ a ∈ log, mark a = k
  · obtain ⟨a, member, rfl⟩ := known
    exact firsts a member
  · have unknown : ∀ c ∈ log, mark c ≠ k := fun c member same => known ⟨c, member, same⟩
    have nowhere : ∀ c ∈ more, mark c ≠ k := fun c member => unknown c (nothing_new member)
    rw [List.find?_eq_none.mpr (by simpa using nowhere),
      List.find?_eq_none.mpr (by simpa using unknown)]

omit [Stamped α] in
theorem twice (mark : α → κ) (log : List α) : Redelivered mark log (log ++ log) where
  kept := (List.sublist_append_left log log).subperm
  nothing_new := by simp
  firsts k := by rw [List.find?_append, Option.or_self]

theorem first_after {log more : List α} (redelivered : Redelivered Stamped.time log more)
    (time : Int64) : firstAfter more time = firstAfter log time :=
  first_after_congr redelivered.firsts time

end Redelivered

theorem key_firsts {log more : List RelatedChange} (redelivered :
      Redelivered (fun c : RelatedChange => (c.time, c.reductionKey)) log more) (key : String)
    (t : Int64) : (more.filter fun c => c.reductionKey == key).find? (fun c => Stamped.time c = t) =
      (log.filter fun c => c.reductionKey == key).find? fun c => Stamped.time c = t := by
  have both : (fun c : RelatedChange =>
      decide ((c.reductionKey == key) = true ∧ decide (Stamped.time c = t) = true)) =
      fun c => decide ((c.time, c.reductionKey) = (t, key)) := by
    funext c
    refine decide_eq_decide.mpr ?_
    rw [beq_iff_eq, decide_eq_true_iff, Prod.mk.injEq, and_comm]
    rfl
  rw [List.find?_filter, List.find?_filter, both]
  exact redelivered.firsts (t, key)

end Past

open Past

namespace AlarmDocument

structure Redelivered (d e : AlarmDocument) : Prop where
  header : e.header = d.header
  snapshot : e.snapshot = d.snapshot
  severity : Past.Redelivered Stamped.time d.logs.severity e.logs.severity
  ack : Past.Redelivered Stamped.time d.logs.ack e.logs.ack
  memo : Past.Redelivered Stamped.time d.logs.memo e.logs.memo
  related : Past.Redelivered (fun c : RelatedChange => (c.time, c.reductionKey)) d.logs.related
    e.logs.related

theorem Redelivered.same_views {d e : AlarmDocument} (redelivered : d.Redelivered e) :
    d.SameViews e where
  severity time := by
    simp only [AlarmView.severity, redelivered.severity.first_after, AlarmDocument.severity,
      redelivered.snapshot]
  ackUser time := by
    simp only [AlarmView.ackUser, redelivered.ack.first_after, AlarmDocument.ackUser,
      redelivered.snapshot]
  ackTime time := by
    simp only [AlarmView.ackTime, redelivered.ack.first_after, AlarmDocument.ackTime,
      redelivered.snapshot]
  relatedKeys time := by
    apply AlarmView.related_keys_eq
    intro key
    simp only [AlarmView.isRelated, redelivered.snapshot,
      first_after_congr (key_firsts redelivered.related key)]

end AlarmDocument

theorem Edit.merge_self {α : Type} (e : Edit α) : e.merge e = e := by
  cases e <;> rfl

theorem Snapshot.merge_self (s : Snapshot) : s.merge s = s := by
  simp only [merge, Option.or_self, Edit.merge_self]

theorem merge_redelivers (d : AlarmDocument) : d.Redelivered (d.merge d) where
  header := rfl
  snapshot := d.snapshot.merge_self
  severity := .twice _ d.logs.severity
  ack := .twice _ d.logs.ack
  memo := .twice _ d.logs.memo
  related := .twice _ d.logs.related

section Stored
open Bulk Json Store

/-- Views stay the same when entries come again, in any order that leaves the first of each time in
    front; so they do when a stored document is sent to the store once more. -/
theorem views_survive_redelivery (d : AlarmDocument) :
    (∀ e, d.Redelivered e → d.SameViews e) ∧
      ∀ (t : Target) (position : Nat) (s : Sources) (h : Holdings), s.Shows h →
        h (t.placeOf d) = some d → ∃ after source d',
          Sources.bulk (body (actions t [(position, d)])) s = some after ∧
          after (t.placeOf d).key = some source ∧
          (∀ v, Reordered (.obj source) v → AlarmDocument.ofJson v = .ok d') ∧
          d.Redelivered d' ∧ d.SameViews d' := by
  refine ⟨fun e redelivered => redelivered.same_views, fun t position s h shows held => ?_⟩
  obtain ⟨after, sent, shown⟩ := Sources.patch_shows shows t position d
  have merged : Action.carryOut h ⟨position, t.indexOf d, d.id, .merge d⟩ (t.placeOf d) =
      some (d.merge d) := by
    refine (if_pos rfl).trans ?_
    rw [held]
    rfl
  obtain ⟨source, there, read⟩ := shown.read merged
  have again := merge_redelivers d
  exact ⟨after, source, d.merge d, sent, there, read, again, again.same_views⟩

theorem shuffled_logs_same_views :
    let minor : SeverityChange := .ofPrevious 5 (some .minor)
    let major : SeverityChange := .ofPrevious 5 (some .major)
    let late : SeverityChange := .ofPrevious 9 (some .critical)
    let came : RelatedChange := .added 5 1 "a"
    let went : RelatedChange := .removed 5 2 "b"
    let d : AlarmDocument :=
      ⟨⟨7, "rk", 1, 1, 9⟩, {}, { severity := [minor, major, late], related := [came, went] }⟩
    let e : AlarmDocument :=
      ⟨⟨7, "rk", 1, 1, 9⟩, {},
        { severity := [late, minor, minor, major], related := [went, came, went] }⟩
    let t : Target := ⟨"alarms", .monthly⟩
    d.Redelivered e ∧ d.SameViews e ∧
      ∃ s h after source d', Sources.Shows s h ∧ h (t.placeOf d) = some d ∧
        Sources.bulk (body (actions t [(0, d)])) s = some after ∧
        after (t.placeOf d).key = some source ∧
        (∀ v, Reordered (.obj source) v → AlarmDocument.ofJson v = .ok d') ∧
        d.SameViews d' := by
  intro minor major late came went d e t
  have redelivered : d.Redelivered e := by
    refine ⟨rfl, rfl, .of_marks ?_ ?_ ?_, .of_marks ?_ ?_ ?_, .of_marks ?_ ?_ ?_, .of_marks ?_ ?_ ?_⟩
    all_goals decide
  obtain ⟨s, _, shows⟩ := Sources.patch_shows Sources.empty_shows t 0 d
  have held : Action.carryOut (fun _ => none) ⟨0, t.indexOf d, d.id, .merge d⟩ (t.placeOf d) =
      some d := if_pos rfl
  obtain ⟨after, source, d', sent, there, read, _, same⟩ :=
    (views_survive_redelivery d).2 t 0 s _ shows held
  exact ⟨redelivered, (views_survive_redelivery d).1 e redelivered, s, _, after, source, d', shows,
    held, sent, there, read, same⟩

end Stored
end AlarmHistory
