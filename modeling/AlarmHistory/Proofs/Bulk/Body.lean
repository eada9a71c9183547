import AlarmHistory.Proofs.Store.Sources

/- The body of a request as it is found by someone who splits it at its newlines and reads each line
   as JSON. There are two lines for every action, and their number tells whose they are: of each
   document, in order, one update of its snapshot and, if it has log entries, one that appends
   them. -/
namespace AlarmHistory.Decimal

end AlarmHistory.Decimal

namespace AlarmHistory

theorem ChangeLogs.isEmpty_iff (c : ChangeLogs) : c.isEmpty ↔ c.size = 0 := by
  simp only [isEmpty, size, Bool.and_eq_true, List.isEmpty_iff_length_eq_zero]
  omega

end AlarmHistory

namespace AlarmHistory.Bulk
open Store Json

structure Found where
  owner : Nat
  target : Json
  work : Json

namespace Found

def Targets (t : Target) (e : Nat × AlarmDocument) (f : Found) : Prop :=
  f.owner = e.1 ∧ place? f.target = some (t.indexOf e.2, toString e.2.id.toInt)

def Upserts (d : AlarmDocument) (f : Found) : Prop :=
  ∃ doc, f.work = .obj [("doc", doc), ("doc_as_upsert", .bool true)] ∧
    AlarmDocument.ofJson doc = .ok d.withoutLogs ∧ ∀ k ∈ logNames, doc.get? k = none

def Appends (d : AlarmDocument) (f : Found) : Prop :=
  ∃ script params, f.work = .obj [("script", script)] ∧
    script.get? "lang" = some (.str "painless") ∧
    script.get? "source" = some (.str appendScript) ∧ script.get? "params" = some params ∧
    (∀ k ∈ logNames, ∃ entries, params.get? k = some (.arr entries)) ∧
    decode ChangeLogs.record.decoder params = .ok d.logs

inductive Shows (t : Target) (e : Nat × AlarmDocument) : List Found → Prop
  | snapshot {f : Found} (target : f.Targets t e) (upsert : f.Upserts e.2)
      (bare : e.2.logs.size = 0) : Shows t e [f]
  | logged {f g : Found} (target : f.Targets t e) (upsert : f.Upserts e.2)
      (target' : g.Targets t e) (append : g.Appends e.2) (logged : 0 < e.2.logs.size) :
      Shows t e [f, g]

end Found

namespace Action

def found (a : Action) : Found := ⟨a.owner, a.targetJson, a.workJson⟩

end Action

end AlarmHistory.Bulk
