import AlarmHistory.Proofs.Bulk.Failures

/- Whose failure a failed action is. Results belong to actions by their number, and of the failures
   of one position the first is kept. -/
namespace AlarmHistory.Bulk

inductive Fault : Option Result → Failure → Prop where
  | missing : Fault none ⟨none, "no result for action"⟩
  | refused {result : Result} (bad : result.error ≠ none ∨ 300 ≤ result.status) :
      Fault (some result) ⟨some result.status, result.reason⟩

theorem fault_iff (result : Option Result) (f : Failure) :
    Failure.ofResult? result = some f ↔ Fault result f := by
  constructor
  · intro failed
    cases result with
    | none =>
      cases failed
      exact .missing
    | some result =>
      simp only [Failure.ofResult?, Result.hasFailed, Option.ite_none_right_eq_some,
        Option.some.injEq, Bool.or_eq_true, decide_eq_true_eq] at failed
      obtain ⟨bad, rfl⟩ := failed
      exact .refused (bad.imp_left Option.isSome_iff_ne_none.mp)
  · intro fault
    cases fault with
    | missing => rfl
    | @refused result bad =>
      have failed : result.hasFailed = true := by
        simpa [Result.hasFailed, Option.isSome_iff_ne_none] using bad
      exact if_pos failed

def FirstFault (results : Nat → Option Result) (owners : List Nat) (p : Nat) (f : Failure) : Prop :=
  ∃ i, owners[i]? = some p ∧ Fault (results i) f ∧
    ∀ j < i, owners[j]? = some p → Fine (results j)

theorem not_fine_iff (result : Option Result) : ¬ Fine result ↔
    result = none ∨ ∃ r, result = some r ∧ (r.error ≠ none ∨ 300 ≤ r.status) := by
  cases result with
  | none => simp [Fine]
  | some result => simp [Fine, Result.Success, imp_iff_not_or]

theorem firstFault_cons (results : Nat → Option Result) (owner : Nat) (owners : List Nat) (p : Nat)
    (f : Failure) : FirstFault results (owner :: owners) p f ↔
      p = owner ∧ Fault (results 0) f ∨
        (p = owner → Fine (results 0)) ∧ FirstFault (fun i => results (i + 1)) owners p f := by
  constructor
  · rintro ⟨i, owns, fault, before⟩
    cases i with
    | zero => exact Or.inl ⟨by simpa [eq_comm] using owns, fault⟩
    | succ i =>
      refine Or.inr ⟨fun same => before 0 (Nat.succ_pos i) (by simp [same]), i, by simpa using owns,
        fault, fun j less owns => ?_⟩
      exact before (j + 1) (Nat.succ_lt_succ less) (by simpa using owns)
  · rintro (⟨rfl, fault⟩ | ⟨first, i, owns, fault, before⟩)
    · exact ⟨0, rfl, fault, nofun⟩
    · refine ⟨i + 1, by simpa using owns, fault, fun j less owns => ?_⟩
      cases j with
      | zero => exact first (by simpa [eq_comm] using owns)
      | succ j => exact before j (Nat.lt_of_succ_lt_succ less) (by simpa using owns)

theorem firstFailure_some_iff (r : Response) (p : Nat) (f : Failure) (owners : List Nat)
    (start : Nat) : firstFailure r p owners start = some f ↔
      FirstFault (fun i => r.resultAt (start + i)) owners p f := by
  induction owners generalizing start with
  | nil => simp [firstFailure, FirstFault]
  | cons owner owners ih =>
    have shift : (fun i => r.resultAt (start + (i + 1))) = fun i => r.resultAt (start + 1 + i) := by
      funext i
      rw [Nat.add_right_comm, Nat.add_assoc]
    rw [firstFailure, Option.or_eq_some_iff, ih, firstFault_cons, shift, Nat.add_zero, ← fault_iff,
      ← fine_iff]
    split
    · rename_i same
      simp [same]
    · rename_i other
      simp [other]

theorem lookup_failures_iff (r : Response) (owners : List Nat) (p : Nat) (f : Failure) :
    (failures r owners).lookup p = some f ↔ FirstFault r.resultAt owners p f := by
  rw [lookup_failures, firstFailure_some_iff]
  simp only [Nat.zero_add]

theorem failures_congr {r other : Response} {owners : List Nat}
    (same : ∀ i < owners.length, other.items[i]? = r.items[i]?) :
    failures other owners = failures r owners := by
  have results : ∀ i < owners.length, other.resultAt i = r.resultAt i := fun i small => by
    rw [Response.resultAt, same i small, Response.resultAt]
  unfold failures
  refine List.foldl_ext _ _ _ fun t e member => ?_
  have small := (List.mem_zipIdx member).2.1
  rw [Nat.zero_add] at small
  simp only [results e.2 small]

namespace Response

def OneKeyed (r : Response) : Prop :=
  ∀ item ∈ r.items, ∀ e ∈ item, ∀ e' ∈ item, e.1 = e'.1

/-- The result that an item with one name holds; of entries repeated under it the last. -/
def soleResult (r : Response) (action : Nat) : Option Result :=
  (r.items[action]?.bind List.getLast?).map Prod.snd

theorem resultAt_sole {r : Response} (keyed : r.OneKeyed) : r.resultAt = r.soleResult := by
  funext action
  unfold resultAt soleResult
  cases here : r.items[action]? with
  | none => rfl
  | some item =>
    have names := keyed item (List.mem_of_getElem? here)
    rw [Option.bind_some, Option.bind_some]
    cases last : item.getLast? with
    | none =>
      rw [List.getLast?_eq_none_iff.mp last]
      rfl
    | some e =>
      obtain ⟨name, result⟩ := e
      obtain ⟨before, rfl⟩ := List.getLast?_eq_some_iff.mp last
      cases before with
      | nil => simp [resultOf]
      | cons first before =>
        obtain ⟨other, first⟩ := first
        have same : other = name := names (other, first) (by simp) (name, result) (by simp)
        simp [resultOf, same]

theorem soleResult_none_iff (r : Response) (action : Nat) :
    r.soleResult action = none ↔ r.items[action]? = none ∨ r.items[action]? = some [] := by
  unfold soleResult
  cases r.items[action]? <;> simp

end Response

/-- A position has failed if an action of it has no result or one of failure, and it has failed as
    the first of these did. -/
theorem failures_attributed {r : Response} (keyed : r.OneKeyed) (owners : List Nat) :
    Positions.Ascending (failures r owners) ∧
    (∀ p, p ∈ (failures r owners).map Prod.fst ↔ ∃ i, owners[i]? = some p ∧
      ((r.items[i]? = none ∨ r.items[i]? = some []) ∨
        ∃ result, r.soleResult i = some result ∧ (result.error ≠ none ∨ 300 ≤ result.status))) ∧
    (∀ p f, (p, f) ∈ failures r owners ↔ FirstFault r.soleResult owners p f) ∧
    (∀ other : Response, (∀ i < owners.length, other.items[i]? = r.items[i]?) →
      failures other owners = failures r owners) ∧
    (failures r owners = [] ↔ ∀ i < owners.length, Fine (r.soleResult i)) := by
  have ascending := failures_ascending r owners
  have succeeds : ∀ i, r.Succeeds i ↔ Fine (r.soleResult i) := fun i => by
    rw [← Response.resultAt_sole keyed]
    rfl
  refine ⟨ascending, fun p => ?_, fun p f => ?_, fun other same => failures_congr same, ?_⟩
  · rw [← lookup_known_iff, ← Option.ne_none_iff_isSome, ne_eq, failed_iff]
    simp only [← r.soleResult_none_iff, ← not_fine_iff, succeeds, not_forall, exists_prop]
  · rw [← Response.resultAt_sole keyed, ← lookup_failures_iff]
    exact ⟨lookup_of_member (Positions.ascending_distinct ascending), member_of_lookup⟩
  · constructor
    · intro empty i small
      have fine := (failed_iff r owners owners[i]).mp (by rw [empty]; rfl) i (by simp [small])
      exact (succeeds i).mp fine
    · intro all
      by_contra some_failed
      obtain ⟨p, known⟩ := some_key_known some_failed
      rw [(failed_iff r owners p).mpr] at known
      · cases known
      · intro i owns
        exact (succeeds i).mpr (all i (List.getElem?_eq_some_iff.mp owns).1)

theorem masked_failure_attributed :
    let done : Result := ⟨none, none, 200, none⟩
    let refused : Result := ⟨none, none, 400, some (.obj [("reason", .str "bad field")])⟩
    let r : Response := ⟨false, [[("update", refused)], [("update", done)], [("update", done)]]⟩
    r.OneKeyed ∧ (0, ⟨some 400, "bad field"⟩) ∈ failures r [0, 1, 0, 2] ∧
      (2, ⟨none, "no result for action"⟩) ∈ failures r [0, 1, 0, 2] := by
  intro done refused r
  have keyed : r.OneKeyed := by
    intro item member e here e' here'
    simp only [r, List.mem_cons, List.not_mem_nil, or_false] at member
    rcases member with rfl | rfl | rfl <;> simp_all
  obtain ⟨_, _, first, _⟩ := failures_attributed keyed [0, 1, 0, 2]
  refine ⟨keyed, (first _ _).mpr ?_, (first _ _).mpr ?_⟩
  · exact ⟨0, rfl, .refused (Or.inr (by decide)), nofun⟩
  · have others : ∀ j < 3, [0, 1, 0, 2][j]? ≠ some 2 := by decide
    exact ⟨3, rfl, .missing, fun j less owns => absurd owns (others j less)⟩

end AlarmHistory.Bulk
