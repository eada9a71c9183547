import AlarmHistory.Json.Value
import AlarmHistory.Proofs.Lookup

/- Objects with their members sorted. Sorting changes the order alone: a look-up finds what it found
   before, and no key stands twice. -/
namespace AlarmHistory.Json

theorem lookup_insertMember (k l : String) (v : Json) (ms : List (String × Json)) :
    (insertMember k v ms).lookup l = if l = k then some v else ms.lookup l := by
  induction ms with
  | nil => exact lookup_cons_if l k v []
  | cons e ms ih =>
    obtain ⟨m, w⟩ := e
    simp only [insertMember]
    split
    · rw [lookup_cons_if]
    · split
      · rename_i same
        subst same
        rw [lookup_cons_if, lookup_cons_if]
        split <;> rfl
      · rename_i other
        rw [lookup_cons_if, lookup_cons_if, ih]
        split
        · rename_i here
          exact (if_neg fun same => other (same.symm.trans here)).symm
        · rfl

theorem insertMember_perm {k : String} (v : Json) {ms : List (String × Json)}
    (fresh : k ∉ ms.map Prod.fst) : (insertMember k v ms).Perm ((k, v) :: ms) := by
  induction ms with
  | nil => exact List.Perm.refl _
  | cons e ms ih =>
    obtain ⟨l, w⟩ := e
    rw [List.map_cons, List.mem_cons, not_or] at fresh
    obtain ⟨other, later⟩ := fresh
    simp only [insertMember, if_neg other]
    split
    · exact List.Perm.refl _
    · exact ((ih later).cons (l, w)).trans (List.Perm.swap (k, v) (l, w) ms)

theorem sortedMembers_perm (ms done : List (String × Json)) (distinct : DistinctKeys (ms ++ done)) :
    (sortedMembers ms done).Perm (ms.map (fun e => (e.1, e.2.sorted)) ++ done) := by
  induction ms generalizing done with
  | nil => exact List.Perm.refl _
  | cons e ms ih =>
    obtain ⟨k, v⟩ := e
    rw [DistinctKeys, List.cons_append, List.map_cons, List.nodup_cons, List.map_append] at distinct
    have fresh : k ∉ done.map Prod.fst :=
      fun there => distinct.1 (List.mem_append_right _ there)
    have inserted := insertMember_perm v.sorted fresh
    have moved : (ms ++ insertMember k v.sorted done).Perm ((k, v.sorted) :: (ms ++ done)) :=
      (inserted.append_left ms).trans List.perm_middle
    have apart : DistinctKeys (ms ++ insertMember k v.sorted done) := by
      rw [DistinctKeys, (moved.map Prod.fst).nodup_iff, List.map_cons, List.nodup_cons,
        List.map_append]
      exact distinct
    calc sortedMembers ms (insertMember k v.sorted done)
      _ |>.Perm (ms.map (fun e => (e.1, e.2.sorted)) ++ insertMember k v.sorted done) := ih _ apart
      _ |>.Perm (ms.map (fun e => (e.1, e.2.sorted)) ++ (k, v.sorted) :: done) :=
        inserted.append_left _
      _ |>.Perm ((k, v.sorted) :: (ms.map (fun e => (e.1, e.2.sorted)) ++ done)) :=
        List.perm_middle

theorem insertMember_ascending (k : String) (v : Json) {ms : List (String × Json)}
    (ascending : (ms.map Prod.fst).Pairwise (· < ·)) :
    ((insertMember k v ms).map Prod.fst).Pairwise (· < ·) := by
  induction ms with
  | nil => simp [insertMember]
  | cons e ms ih =>
    obtain ⟨m, w⟩ := e
    obtain ⟨first, rest⟩ := List.pairwise_cons.mp ascending
    simp only [insertMember]
    split
    · rename_i less
      refine List.pairwise_cons.mpr ⟨fun l member => ?_, ascending⟩
      rcases List.mem_cons.mp member with rfl | later
      · exact less
      · exact String.lt_trans less (first l later)
    · split
      · rename_i same
        subst same
        exact ascending
      · rename_i less other
        refine List.pairwise_cons.mpr ⟨fun l member => ?_, ih rest⟩
        rw [← lookup_known_iff, lookup_insertMember] at member
        split at member
        · rename_i here
          subst here
          exact Std.lt_of_le_of_ne (String.not_lt.mp less) (Ne.symm other)
        · exact first l ((lookup_known_iff ms l).mp member)

theorem sortedMembers_ascending (ms done : List (String × Json))
    (ascending : (done.map Prod.fst).Pairwise (· < ·)) :
    ((sortedMembers ms done).map Prod.fst).Pairwise (· < ·) := by
  induction ms generalizing done with
  | nil => exact ascending
  | cons e ms ih => exact ih _ (insertMember_ascending e.1 e.2.sorted ascending)

theorem lookup_sortedMembers {ms : List (String × Json)} (distinct : DistinctKeys ms)
    (done : List (String × Json)) (k : String) :
    (sortedMembers ms done).lookup k = ((ms.lookup k).map sorted).or (done.lookup k) := by
  induction ms generalizing done with
  | nil => rfl
  | cons e ms ih =>
    obtain ⟨l, v⟩ := e
    obtain ⟨once, rest⟩ := List.nodup_cons.mp distinct
    rw [sortedMembers, ih rest, lookup_insertMember, lookup_cons_if]
    split
    · rename_i here
      rw [here, (lookup_unknown_iff ms l).mpr once]
      rfl
    · rfl

/-- An object with its members sorted: what each look-up finds is sorted in turn. -/
theorem sorted_object {ms : List (String × Json)} (distinct : DistinctKeys ms) :
    ∃ ns, sorted (.obj ms) = .obj ns ∧ DistinctKeys ns ∧
      ∀ k, ns.lookup k = (ms.lookup k).map sorted := by
  refine ⟨sortedMembers ms [], rfl, ?_, fun k => ?_⟩
  · exact (sortedMembers_ascending ms [] List.Pairwise.nil).imp String.ne_of_lt
  · rw [lookup_sortedMembers distinct]
    exact Option.or_none

theorem flat_object {ms : List (String × Json)} (distinct : DistinctKeys ms)
    (flat : ∀ e ∈ ms, e.2.sorted = e.2) {v : Json} (written : v = .obj ms ∨ v = sorted (.obj ms)) :
    ∃ ns, v = .obj ns ∧ DistinctKeys ns ∧ ∀ k, ns.lookup k = ms.lookup k := by
  rcases written with rfl | rfl
  · exact ⟨ms, rfl, distinct, fun _ => rfl⟩
  · obtain ⟨ns, same, distinct', lookups⟩ := sorted_object distinct
    refine ⟨ns, same, distinct', fun k => ?_⟩
    rw [lookups k]
    cases found : ms.lookup k with
    | none => rfl
    | some v => exact congrArg some (flat _ (member_of_lookup found))

end AlarmHistory.Json
