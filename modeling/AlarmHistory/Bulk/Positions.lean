/- Tables keyed by positions in a batch, in ascending order of positions. -/
namespace AlarmHistory

abbrev Positions (α : Type) := List (Nat × α)

namespace Positions

def set (p : Nat) (a : α) : Positions α → Positions α
  | [] => [(p, a)]
  | (q, b) :: rest =>
    if p < q then (p, a) :: (q, b) :: rest
    else if p = q then (p, a) :: rest
    else (q, b) :: set p a rest

def add (p : Nat) (a : α) (t : Positions α) : Positions α :=
  if (t.lookup p).isSome then t else set p a t

/-- The entries of both tables; where both have one, that of the second. -/
def union (t u : Positions α) : Positions α := u.foldl (fun t e => set e.1 e.2 t) t

end Positions
end AlarmHistory
