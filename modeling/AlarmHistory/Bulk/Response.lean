import AlarmHistory.Bulk.Positions
import AlarmHistory.Decimal.Digits
import AlarmHistory.Json.Record
/- Answers to bulk requests: one result for every action, in the order of the actions. -/
namespace AlarmHistory.Bulk

open Json Json.Decoder

structure Result where
  index : Option String
  id : Option String
  status : Nat
  error : Option Json
  deriving Repr

/-- A result stands under the name of its action. -/
structure Response where
  errors : Bool
  items : List (List (String × Result))
  deriving Repr

namespace Result

def errorDepth : Nat := maxDepth - 4

def decoder : Decoder Result :=
  Record.pure Result.mk
    |>.optional "_index" string
    |>.optional "_id" string
    |>.defaulted "status" (natural 16) 0
    |>.optional "error" (Reading.toJson errorDepth)
    |>.decoder

def hasFailed (r : Result) : Bool := r.error.isSome || decide (300 ≤ r.status)

def reason (r : Result) : String :=
  match r.error with
  | none => "status " ++ Decimal.natText r.status
  | some e =>
    match e.get? "reason" with
    | some (.str s) => s
    | _ => e.sorted.text

end Result

namespace Response

def decoder : Decoder Response :=
  Record.pure Response.mk
    |>.defaulted "errors" bool false
    |>.defaulted "items" (list (table Result.decoder)) []
    |>.decoder

/-- The result of an action: of entries under one name the last. -/
def resultOf (item : List (String × Result)) : Option Result :=
  match item with
  | [] => none
  | (name, _) :: _ => (item.reverse.lookup name)

def resultAt (r : Response) (action : Nat) : Option Result := r.items[action]?.bind resultOf

end Response

structure Failure where
  status : Option Nat
  reason : String
  deriving DecidableEq, Repr

def Failure.ofResult? : Option Result → Option Failure
  | none => some ⟨none, "no result for action"⟩
  | some r => if r.hasFailed then some ⟨some r.status, r.reason⟩ else none

def failures (r : Response) (owners : List Nat) : Positions Failure :=
  owners.zipIdx.foldl (fun t (owner, action) =>
    match Failure.ofResult? (r.resultAt action) with
    | some f => Positions.add owner f t
    | none => t) []

def isRetryable : Option Nat → Bool
  | none => true
  | some s => s == 429 || decide (500 ≤ s)

end AlarmHistory.Bulk
