import AlarmHistory.Bulk.Request
import AlarmHistory.Bulk.Response
/- Uploading a batch. Documents that failed in a way that may pass are sent again, up to a number
   of times. What has not landed in the end is reported, document by document. -/
namespace AlarmHistory.Bulk

structure Unwritten where
  position : Nat
  id : Int32
  reductionKey : String
  index : String
  failure : Failure
  deriving DecidableEq, Repr

structure Report where
  attempts : Nat
  total : Nat
  unwritten : List Unwritten
  deriving DecidableEq, Repr

def Report.message (r : Report) : String :=
  "Bulk upsert failed (" ++ Decimal.natText r.unwritten.length ++ " of " ++
    Decimal.natText r.total ++ " documents failed after " ++ Decimal.natText r.attempts ++
    " attempts)"

inductive Answer where
  | results (r : Response)
  | noResults (reason : String)
  deriving Repr

/-- An upload between two requests. `pending` is what the next one carries, `permanent` what will
   not be sent again. -/
structure Upload where
  batch : List (Nat × AlarmDocument)
  pending : List (Nat × AlarmDocument)
  permanent : Positions Failure := []
  attempts : Nat := 0
  deriving DecidableEq, Repr

inductive Progress where
  | landed
  | failed (r : Report)
  | again (u : Upload)
  deriving DecidableEq, Repr

namespace Upload

def numbered (docs : List AlarmDocument) : List (Nat × AlarmDocument) :=
  docs.zipIdx.map fun (d, position) => (position, d)

def ofBatch (docs : List AlarmDocument) : Upload :=
  { batch := numbered docs, pending := numbered docs }

def actions (u : Upload) (t : Target) : List Action := Bulk.actions t u.pending

/-- The failures among the pending documents. Without results all of them failed. -/
def failuresOf (u : Upload) (t : Target) : Answer → Positions Failure
  | .results r => failures r (owners (u.actions t))
  | .noResults reason => u.pending.map fun (position, _) => (position, ⟨none, reason⟩)

def report (u : Upload) (t : Target) (failed : Positions Failure) : Report where
  attempts := u.attempts
  total := u.batch.length
  unwritten := u.batch.filterMap fun (position, d) =>
    (failed.lookup position).map fun f => ⟨position, d.id, d.header.reductionKey, t.indexOf d, f⟩

def absorb (u : Upload) (t : Target) (retries : Nat) (answer : Answer) : Progress :=
  let u := { u with attempts := u.attempts + 1 }
  let (passing, lasting) := (u.failuresOf t answer).partition fun (_, f) => isRetryable f.status
  let permanent := Positions.union u.permanent lasting
  if passing.isEmpty && permanent.isEmpty then .landed
  else if passing.isEmpty || decide (retries < u.attempts) then
    .failed (u.report t (Positions.union permanent passing))
  else
    .again { u with
      permanent
      pending := u.batch.filter fun (position, _) => (passing.lookup position).isSome }

end Upload
end AlarmHistory.Bulk
