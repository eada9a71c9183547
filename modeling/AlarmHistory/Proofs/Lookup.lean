import Mathlib.Data.List.Basic
import Mathlib.Data.List.Perm.Basic

/- Tables as lists of keys and values. Where every key stands once, a table is known by what it
   answers, in any order. -/
namespace AlarmHistory
variable {κ α β : Type} [BEq κ] [LawfulBEq κ]

def DistinctKeys (t : List (κ × α)) : Prop := (t.map Prod.fst).Nodup

theorem lookup_cons_if [DecidableEq κ] (k l : κ) (a : α) (t : List (κ × α)) :
    ((l, a) :: t).lookup k = if k = l then some a else t.lookup k := by
  by_cases same : k = l
  · simp [same]
  · rw [List.lookup_cons, beq_eq_false_iff_ne.mpr same, if_neg same]

theorem lookup_known_iff (t : List (κ × α)) (k : κ) :
    (t.lookup k).isSome ↔ k ∈ t.map Prod.fst := by
  rw [List.lookup_isSome_iff, List.mem_map]
  exact exists_congr fun e => and_congr_right fun _ => by rw [beq_iff_eq, eq_comm]

theorem lookup_unknown_iff (t : List (κ × α)) (k : κ) :
    t.lookup k = none ↔ k ∉ t.map Prod.fst := by
  rw [← lookup_known_iff, Option.not_isSome_iff_eq_none]

theorem some_key_known {t : List (κ × α)} (entries : t ≠ []) : ∃ k, (t.lookup k).isSome := by
  obtain ⟨e, rest, rfl⟩ := List.exists_cons_of_ne_nil entries
  exact ⟨e.1, by simp⟩

theorem member_of_lookup {t : List (κ × α)} {k : κ} {a : α} (found : t.lookup k = some a) :
    (k, a) ∈ t := by
  obtain ⟨before, after, rfl, _⟩ := List.lookup_eq_some_iff.mp found
  simp

theorem lookup_of_member {t : List (κ × α)} (distinct : DistinctKeys t) {k : κ} {a : α}
    (member : (k, a) ∈ t) : t.lookup k = some a := by
  obtain ⟨before, after, rfl⟩ := List.append_of_mem member
  refine List.lookup_eq_some_iff.mpr ⟨before, after, rfl, ?_⟩
  intro e early
  have apart := (List.nodup_append.mp (by simpa [DistinctKeys] using distinct)).2.2
  have other := apart e.1 (List.mem_map_of_mem early) k (by simp)
  exact bne_iff_ne.mpr other.symm

theorem lookup_perm {t u : List (κ × α)} (distinct : DistinctKeys t) (perm : t.Perm u) (k : κ) :
    t.lookup k = u.lookup k := by
  have distinct' : DistinctKeys u := (perm.map Prod.fst).nodup_iff.mp distinct
  cases found : u.lookup k with
  | none =>
    rw [lookup_unknown_iff] at found ⊢
    intro known
    exact found ((perm.map Prod.fst).mem_iff.mp known)
  | some a => exact lookup_of_member distinct (perm.mem_iff.mpr (member_of_lookup found))

theorem lookup_filter {t : List (κ × α)} (distinct : DistinctKeys t) (keep : α → Bool) (k : κ) :
    (t.filter fun e => keep e.2).lookup k = (t.lookup k).filter keep := by
  have distinct' : DistinctKeys (t.filter fun e => keep e.2) :=
    distinct.sublist (List.filter_sublist.map Prod.fst)
  cases found : t.lookup k with
  | none =>
    rw [lookup_unknown_iff] at found
    rw [Option.filter_none, lookup_unknown_iff]
    exact fun known => found ((List.filter_sublist.map Prod.fst).subset known)
  | some a =>
    have member := member_of_lookup found
    cases kept : keep a with
    | true =>
      rw [Option.filter_some_pos (by simpa using kept)]
      exact lookup_of_member distinct' (List.mem_filter.mpr ⟨member, kept⟩)
    | false =>
      rw [Option.filter_some_neg (by simpa using kept), lookup_unknown_iff, List.mem_map]
      rintro ⟨⟨l, b⟩, still, rfl⟩
      have same := lookup_of_member distinct (List.mem_filter.mp still).1
      rw [found, Option.some.injEq] at same
      simp [← same, kept] at still

end AlarmHistory
