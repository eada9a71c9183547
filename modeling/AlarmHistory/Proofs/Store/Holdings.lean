import AlarmHistory.Proofs.Document.Fields
import AlarmHistory.Bulk.Request

/- A store as it would be if it held documents instead of their JSON, and what an action does to
   it. -/
namespace AlarmHistory.Store
open Bulk

structure Place where
  index : String
  id : Int32
  deriving DecidableEq, Repr

abbrev Holdings := Place → Option AlarmDocument

def Holdings.field? (h : Holdings) (place : Place) (k : String) : Option Json :=
  (h place).bind fun d => d.field? k

end AlarmHistory.Store

namespace AlarmHistory.Bulk
open Store

def Target.placeOf (t : Target) (d : AlarmDocument) : Place := ⟨t.indexOf d, d.id⟩

/-- What some work makes of what is stored. Entries are appended only to a document. -/
def Work.onto (stored : Option AlarmDocument) : Work → Option AlarmDocument
  | .merge p => some (match stored with
    | none => p
    | some d => d.merge p)
  | .append logs => stored.map fun d => { d with logs := d.logs ++ logs }

namespace Action

def place (a : Action) : Place := ⟨a.index, a.id⟩

def carryOut (h : Holdings) (a : Action) : Holdings := fun place =>
  if place = a.place then a.work.onto (h place) else h place

def writes? (place : Place) (k : String) (a : Action) : Option Json :=
  if place = a.place then
    match a.work with
    | .merge p => p.field? k
    | .append _ => none
  else none

theorem field?_carryOut (h : Holdings) (a : Action) (place : Place) (k : String) :
    (carryOut h a).field? place k = (a.writes? place k).or (h.field? place k) := by
  unfold Holdings.field? carryOut writes?
  split
  · cases a.work with
    | merge p =>
      cases h place with
      | none => simp [Work.onto]
      | some d => exact AlarmDocument.field?_merge d p k
    | append logs => cases h place <;> rfl
  · rfl

end Action
end AlarmHistory.Bulk

namespace AlarmHistory

namespace ChangeLogs

theorem append_nothing (c : ChangeLogs) : c ++ ({} : ChangeLogs) = c := by
  change c.append {} = c
  simp [append]

theorem empty_iff (c : ChangeLogs) : c.isEmpty ↔ c = {} := by
  obtain ⟨severity, ack, memo, related⟩ := c
  simp only [isEmpty, Bool.and_eq_true, List.isEmpty_iff, mk.injEq]
  tauto

end ChangeLogs
end AlarmHistory

namespace AlarmHistory.Bulk
open Store

theorem onto_append (stored : Option AlarmDocument) (d : AlarmDocument) :
    Work.onto (Work.onto stored (.merge d.withoutLogs)) (.append d.logs) =
      Work.onto stored (.merge d) := by
  cases stored with
  | none => rfl
  | some e =>
    have logs : (e.merge d.withoutLogs).logs = e.logs := ChangeLogs.append_nothing e.logs
    simp only [Work.onto, Option.map_some, logs]
    rfl

theorem carryOut_actionsOf (t : Target) (position : Nat) (d : AlarmDocument) (h : Holdings) :
    (actionsOf t position d).foldl Action.carryOut h =
      Action.carryOut h ⟨position, t.indexOf d, d.id, .merge d⟩ := by
  unfold actionsOf
  split
  · rename_i empty
    rw [AlarmDocument.withoutLogs, ← (ChangeLogs.empty_iff d.logs).mp empty]
    rfl
  · funext place
    by_cases here : place = t.placeOf d
    · have merged : Action.carryOut h ⟨position, t.indexOf d, d.id, .merge d.withoutLogs⟩ place =
          Work.onto (h place) (.merge d.withoutLogs) := if_pos here
      calc _ = Work.onto _ (.append d.logs) := if_pos here
        _ = Work.onto (h place) (.merge d) := by rw [merged, onto_append]
        _ = _ := (if_pos here).symm
    · calc _ = _ := if_neg here
        _ = h place := if_neg here
        _ = _ := (if_neg here).symm

/-- What a place holds after the actions of some documents: those that belong there, merged. -/
theorem carryOut_actions (t : Target) (docs : List (Nat × AlarmDocument)) (h : Holdings)
    (place : Place) : (actions t docs).foldl Action.carryOut h place =
      (docs.filter fun e => t.placeOf e.2 = place).foldl
        (fun stored e => (Work.merge e.2).onto stored) (h place) := by
  induction docs generalizing h with
  | nil => rfl
  | cons e docs ih =>
    rw [actions, List.flatMap_cons, List.foldl_append, carryOut_actionsOf]
    apply (ih _).trans
    by_cases here : t.placeOf e.2 = place
    · rw [List.filter_cons_of_pos (by simpa using here), List.foldl_cons]
      congr 1
      exact if_pos here.symm
    · rw [List.filter_cons_of_neg (by simpa using here)]
      congr 1
      exact if_neg fun same => here same.symm

theorem merged_onto (first : AlarmDocument) (rest : List (Nat × AlarmDocument)) :
    rest.foldl (fun stored e => (Work.merge e.2).onto stored) (some first) =
      some ((rest.map Prod.snd).foldl AlarmDocument.merge first) := by
  induction rest generalizing first with
  | nil => rfl
  | cons e rest ih => exact ih (first.merge e.2)

end AlarmHistory.Bulk
