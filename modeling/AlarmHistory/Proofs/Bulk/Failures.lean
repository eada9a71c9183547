import AlarmHistory.Bulk.Response
import AlarmHistory.Proofs.Lookup

/- Tables by batch position as they are looked up, and the failures that a response makes of the
   owners of its actions. -/
namespace AlarmHistory

namespace Positions
variable {α : Type}

def Ascending (t : Positions α) : Prop := (t.map Prod.fst).Pairwise (· < ·)

theorem ascending_distinct {t : Positions α} (ascending : Ascending t) : DistinctKeys t :=
  List.Pairwise.imp Nat.ne_of_lt ascending

theorem lookup_set (p q : Nat) (a : α) (t : Positions α) :
    (set p a t).lookup q = if q = p then some a else t.lookup q := by
  induction t with
  | nil => exact lookup_cons_if q p a []
  | cons e t ih =>
    obtain ⟨r, b⟩ := e
    simp only [set]
    split
    · rw [lookup_cons_if]
    · split
      · rename_i here
        subst here
        rw [lookup_cons_if, lookup_cons_if]
        split <;> rfl
      · rename_i other
        rw [lookup_cons_if, lookup_cons_if, ih]
        split
        · rename_i same
          subst same
          exact (if_neg fun eq => other eq.symm).symm
        · rfl

theorem lookup_add (p q : Nat) (a : α) (t : Positions α) :
    (add p a t).lookup q = (t.lookup q).or (if q = p then some a else none) := by
  unfold add
  split
  · rename_i known
    split
    · rename_i same
      rw [same, Option.or_of_isSome known]
    · rw [Option.or_none]
  · rename_i unknown
    rw [lookup_set]
    split
    · rename_i same
      rw [same, Option.not_isSome_iff_eq_none.mp unknown, Option.none_or]
    · rw [Option.or_none]

/-- In a union the second table counts first. -/
theorem lookup_union (t : Positions α) {u : Positions α} (distinct : DistinctKeys u) (p : Nat) :
    (union t u).lookup p = (u.lookup p).or (t.lookup p) := by
  induction u generalizing t with
  | nil => rfl
  | cons e u ih =>
    obtain ⟨q, b⟩ := e
    obtain ⟨fresh, rest⟩ := List.nodup_cons.mp distinct
    change (union (set q b t) u).lookup p = _
    rw [ih (set q b t) rest, lookup_set, lookup_cons_if]
    split
    · rename_i same
      rw [same, (lookup_unknown_iff u q).mpr fresh]
      rfl
    · rfl

theorem set_positions (p q : Nat) (a : α) (t : Positions α) :
    q ∈ (set p a t).map Prod.fst ↔ q = p ∨ q ∈ t.map Prod.fst := by
  rw [← lookup_known_iff, ← lookup_known_iff, lookup_set]
  split
  · rename_i same
    simp [same]
  · rename_i other
    simp [other]

theorem set_ascending (p : Nat) (a : α) {t : Positions α} (ascending : Ascending t) :
    Ascending (set p a t) := by
  induction t with
  | nil => simp [set, Ascending]
  | cons e t ih =>
    obtain ⟨r, b⟩ := e
    obtain ⟨first, rest⟩ := List.pairwise_cons.mp ascending
    simp only [set]
    split
    · rename_i less
      refine List.pairwise_cons.mpr ⟨fun q member => ?_, ascending⟩
      rcases List.mem_cons.mp member with head | later
      · exact head ▸ less
      · exact Nat.lt_trans less (first q later)
    · split
      · rename_i here
        subst here
        exact ascending
      · refine List.pairwise_cons.mpr ⟨fun q member => ?_, ih rest⟩
        rcases (set_positions p q a t).mp member with new | old
        · change r < q
          omega
        · exact first q old

theorem add_ascending (p : Nat) (a : α) {t : Positions α} (ascending : Ascending t) :
    Ascending (add p a t) := by
  unfold add
  split
  · exact ascending
  · exact set_ascending p a ascending

end Positions

namespace Bulk

def Result.Success (r : Result) : Prop := r.error = none ∧ r.status < 300

def Fine (result : Option Result) : Prop := ∃ r, result = some r ∧ r.Success

theorem fine_iff (result : Option Result) : Failure.ofResult? result = none ↔ Fine result := by
  cases result with
  | none => simp [Failure.ofResult?, Fine]
  | some result => simp [Failure.ofResult?, Fine, Result.Success, Result.hasFailed]

def Response.Succeeds (r : Response) (action : Nat) : Prop :=
  ∃ result, r.resultAt action = some result ∧ result.Success

theorem no_failure_iff (r : Response) (action : Nat) :
    Failure.ofResult? (r.resultAt action) = none ↔ r.Succeeds action := fine_iff _

/-- The first failure among the actions of one position, the actions counted from `start`. -/
def firstFailure (r : Response) (position : Nat) : List Nat → Nat → Option Failure
  | [], _ => none
  | owner :: owners, start =>
    ((if position = owner then Failure.ofResult? (r.resultAt start) else none).or
      (firstFailure r position owners (start + 1)))

def noteFailure (r : Response) (t : Positions Failure) (owner action : Nat) : Positions Failure :=
  match Failure.ofResult? (r.resultAt action) with
  | some f => Positions.add owner f t
  | none => t

theorem lookup_noteFailure (r : Response) (t : Positions Failure) (owner action p : Nat) :
    (noteFailure r t owner action).lookup p = (t.lookup p).or
      (if p = owner then Failure.ofResult? (r.resultAt action) else none) := by
  unfold noteFailure
  cases Failure.ofResult? (r.resultAt action) with
  | none => simp
  | some f => exact Positions.lookup_add owner p f t

theorem noteFailure_ascending (r : Response) {t : Positions Failure} (owner action : Nat)
    (ascending : Positions.Ascending t) : Positions.Ascending (noteFailure r t owner action) := by
  unfold noteFailure
  cases Failure.ofResult? (r.resultAt action) with
  | none => exact ascending
  | some f => exact Positions.add_ascending owner f ascending

theorem lookup_failures_from (r : Response) (owners : List Nat) (start : Nat)
    (t : Positions Failure) (p : Nat) :
    ((owners.zipIdx start).foldl (fun t e => noteFailure r t e.1 e.2) t).lookup p =
      (t.lookup p).or (firstFailure r p owners start) := by
  induction owners generalizing start t with
  | nil => simp [firstFailure]
  | cons owner owners ih =>
    rw [List.zipIdx_cons, List.foldl_cons, ih, lookup_noteFailure, Option.or_assoc]
    rfl

theorem lookup_failures (r : Response) (owners : List Nat) (p : Nat) :
    (failures r owners).lookup p = firstFailure r p owners 0 := by
  exact (lookup_failures_from r owners 0 [] p).trans (Option.none_or ..)

theorem failures_ascending (r : Response) (owners : List Nat) :
    Positions.Ascending (failures r owners) := by
  have kept : ∀ (es : List (Nat × Nat)) (t : Positions Failure), Positions.Ascending t →
      Positions.Ascending (es.foldl (fun t e => noteFailure r t e.1 e.2) t) := by
    intro es
    induction es with
    | nil => exact fun t ascending => ascending
    | cons e es ih => exact fun t ascending => ih _ (noteFailure_ascending r e.1 e.2 ascending)
  exact kept (owners.zipIdx) [] List.Pairwise.nil

theorem firstFailure_none_iff (r : Response) (p : Nat) (owners : List Nat) (start : Nat) :
    firstFailure r p owners start = none ↔
      ∀ i, owners[i]? = some p → r.Succeeds (start + i) := by
  induction owners generalizing start with
  | nil => simp [firstFailure]
  | cons owner owners ih =>
    simp only [firstFailure, Option.or_eq_none_iff, ih]
    constructor
    · rintro ⟨first, later⟩ i owns
      cases i with
      | zero =>
        have same : p = owner := by simpa [eq_comm] using owns
        rw [if_pos same] at first
        exact (no_failure_iff r start).mp first
      | succ i =>
        rw [Nat.add_comm i 1, ← Nat.add_assoc]
        exact later i (by simpa using owns)
    · intro all
      refine ⟨?_, fun i owns => ?_⟩
      · split
        · rename_i same
          exact (no_failure_iff r start).mpr (all 0 (by simp [same]))
        · rfl
      · rw [Nat.add_assoc, Nat.add_comm 1 i]
        exact all (i + 1) (by simpa using owns)

/-- A position is among the failures exactly if one of its actions was not carried out. -/
theorem failed_iff (r : Response) (owners : List Nat) (p : Nat) :
    (failures r owners).lookup p = none ↔ ∀ i, owners[i]? = some p → r.Succeeds i := by
  rw [lookup_failures, firstFailure_none_iff]
  simp only [Nat.zero_add]

end Bulk
end AlarmHistory
