import AlarmHistory.NodeCache
import Mathlib.Data.List.Basic
import Mathlib.Data.List.Induction

/- Runs of calls to a node cache. It holds the first distinct ids that came, up to its bound, each
   with the summary of the node that came first; later calls change nothing of that. -/
namespace AlarmHistory

theorem Node.summary_id (n : Node) : n.summary.id = n.id := rfl

structure NodeSummary.Renders (s : NodeSummary) (n : Node) : Prop where
  id : s.id = n.id
  label : s.label = n.label
  foreignSource : s.foreignSource = n.foreignSource
  foreignId : s.foreignId = n.foreignId
  categories : s.categories = n.categories

theorem Node.summary_renders (n : Node) : n.summary.Renders n := ⟨rfl, rfl, rfl, rfl, rfl⟩

namespace NodeCache

def ids (c : NodeCache) : List Int32 := c.entries.map NodeSummary.id

def afterAll (maxEntries : Nat) (calls : List Node) : NodeCache :=
  calls.foldl (fun c n => (c.summarise n).2) ⟨maxEntries, []⟩

/-- The ids of the calls, each where it came first. -/
def firstIds (calls : List Node) : List Int32 := (calls.map Node.id).eraseDups

def firstCall? (calls : List Node) (id : Int32) : Option Node := calls.find? fun n => n.id == id

theorem afterAll_snoc (maxEntries : Nat) (calls : List Node) (n : Node) :
    afterAll maxEntries (calls ++ [n]) = ((afterAll maxEntries calls).summarise n).2 := by
  simp [afterAll]

theorem firstIds_snoc (calls : List Node) (n : Node) : firstIds (calls ++ [n]) =
    if n.id ∈ firstIds calls then firstIds calls else firstIds calls ++ [n.id] := by
  rw [firstIds, List.map_append, List.map_singleton, List.eraseDups_append, ← firstIds]
  by_cases known : n.id ∈ firstIds calls
  · have again := List.mem_eraseDups.mp known
    rw [if_pos known, List.removeAll, List.filter_singleton]
    simp [again]
  · have new := mt List.mem_eraseDups.mpr known
    rw [if_neg known, List.removeAll, List.filter_singleton]
    simp [new, List.eraseDups_cons]

theorem firstCall_unknown {calls : List Node} {id : Int32} (unknown : id ∉ firstIds calls) :
    firstCall? calls id = none := by
  rw [firstIds, List.mem_eraseDups] at unknown
  refine List.find?_eq_none.mpr fun n member same => unknown ?_
  exact List.mem_map.mpr ⟨n, member, beq_iff_eq.mp same⟩

section Call
variable {c : NodeCache} {n : Node}

theorem find_some {s : NodeSummary} (found : c.find? n.id = some s) : s ∈ c.entries ∧ s.id = n.id :=
  ⟨List.mem_of_find?_eq_some found, by simpa using List.find?_some found⟩

theorem find_none_iff : c.find? n.id = none ↔ n.id ∉ c.ids := by
  simp [find?, ids, List.find?_eq_none]

inductive Summarised (c : NodeCache) (n : Node) : NodeSummary → NodeCache → Prop
  | known {s : NodeSummary} (kept : s ∈ c.entries) (same : s.id = n.id) : Summarised c n s c
  | full (unknown : n.id ∉ c.ids) (full : c.maxEntries ≤ c.size) : Summarised c n n.summary c
  | new (unknown : n.id ∉ c.ids) (room : c.size < c.maxEntries) :
      Summarised c n n.summary { c with entries := c.entries ++ [n.summary] }

theorem summarise_does (c : NodeCache) (n : Node) :
    Summarised c n (c.summarise n).1 (c.summarise n).2 := by
  unfold summarise
  cases found : c.find? n.id with
  | some s =>
    obtain ⟨kept, same⟩ := find_some found
    exact .known kept same
  | none =>
    have unknown := find_none_iff.mp found
    by_cases full : c.maxEntries ≤ c.size
    · simp only [full, if_true]
      exact .full unknown full
    · simp only [full, if_false]
      exact .new unknown (Nat.lt_of_not_le full)

theorem summarised_keeps {s : NodeSummary} {d : NodeCache} (does : Summarised c n s d) :
    c.entries <+: d.entries := by
  cases does with
  | known _ _ | full _ _ => exact List.prefix_refl _
  | new _ _ => exact List.prefix_append _ _

end Call

/-- The cache after calls: who came first, as long as there was room. -/
structure FirstCome (maxEntries : Nat) (calls : List Node) (c : NodeCache) : Prop where
  bound : c.maxEntries = maxEntries
  ids : c.ids = (firstIds calls).take maxEntries
  firsts : ∀ s ∈ c.entries, (firstCall? calls s.id).map Node.summary = some s

namespace FirstCome
variable {maxEntries : Nat} {calls : List Node} {c d : NodeCache} {n : Node} {s : NodeSummary}

theorem start (maxEntries : Nat) : FirstCome maxEntries [] ⟨maxEntries, []⟩ where
  bound := rfl
  ids := by simp [NodeCache.ids, firstIds]
  firsts := by simp

theorem size_eq (first : FirstCome maxEntries calls c) :
    c.size = min maxEntries (firstIds calls).length := by
  rw [← List.length_take, ← first.ids, NodeCache.ids, List.length_map, size]

theorem earlier (first : FirstCome maxEntries calls c) (n : Node) :
    ∀ s ∈ c.entries, (firstCall? (calls ++ [n]) s.id).map Node.summary = some s := by
  intro s kept
  obtain ⟨m, came, same⟩ := Option.map_eq_some_iff.mp (first.firsts s kept)
  rw [firstCall?] at came ⊢
  rw [List.find?_append, came, Option.some_or, Option.map_some, same]

theorem after (first : FirstCome maxEntries calls c) (does : Summarised c n s d) :
    FirstCome maxEntries (calls ++ [n]) d := by
  have ids := first.ids
  have size := first.size_eq
  have bound := first.bound
  cases does with
  | known kept same =>
    have held : n.id ∈ c.ids := same ▸ List.mem_map_of_mem kept
    have known : n.id ∈ firstIds calls := List.mem_of_mem_take (ids ▸ held)
    exact ⟨bound, by rw [firstIds_snoc, if_pos known, ids], first.earlier n⟩
  | full unknown full =>
    have many : maxEntries ≤ (firstIds calls).length := by omega
    refine ⟨bound, ?_, first.earlier n⟩
    rw [firstIds_snoc, ids]
    split
    · rfl
    · rw [List.take_append_of_le_length many]
  | new unknown room =>
    have few : (firstIds calls).length < maxEntries := by omega
    have all : (firstIds calls).take maxEntries = firstIds calls :=
      List.take_of_length_le (Nat.le_of_lt few)
    rw [all] at ids
    have new : n.id ∉ firstIds calls := ids ▸ unknown
    refine ⟨bound, ?_, ?_⟩
    · have fits : (firstIds calls ++ [n.id]).length ≤ maxEntries := by
        rw [List.length_append, List.length_singleton]
        omega
      rw [firstIds_snoc, if_neg new, List.take_of_length_le fits, ← ids]
      simp [NodeCache.ids, Node.summary_id]
    · intro s member
      rcases List.mem_append.mp member with before | here
      · exact first.earlier n s before
      · rw [List.mem_singleton.mp here, Node.summary_id, firstCall?, List.find?_append, ← firstCall?,
          firstCall_unknown new]
        simp

theorem answers (first : FirstCome maxEntries calls c) (does : Summarised c n s d) :
    (n.id ∈ d.ids → ∃ m, firstCall? (calls ++ [n]) n.id = some m ∧ s = m.summary) ∧
      (n.id ∉ d.ids → s = n.summary ∧ d = c) := by
  have firsts := (first.after does).firsts
  cases does with
  | known kept same =>
    have held : n.id ∈ c.ids := same ▸ List.mem_map_of_mem kept
    obtain ⟨m, came, summary⟩ := Option.map_eq_some_iff.mp (firsts s kept)
    exact ⟨fun _ => ⟨m, same ▸ came, summary.symm⟩, fun absent => absurd held absent⟩
  | full unknown _ => exact ⟨fun present => absurd present unknown, fun _ => ⟨rfl, rfl⟩⟩
  | new _ _ =>
    have added : n.summary ∈ c.entries ++ [n.summary] := by simp
    obtain ⟨m, came, summary⟩ := Option.map_eq_some_iff.mp (firsts n.summary added)
    refine ⟨fun _ => ⟨m, came, summary.symm⟩, fun absent => absurd ?_ absent⟩
    exact List.mem_map_of_mem added

theorem through (maxEntries : Nat) (calls : List Node) :
    FirstCome maxEntries calls (afterAll maxEntries calls) := by
  induction calls using List.reverseRecOn with
  | nil => exact start maxEntries
  | append_singleton calls n ih =>
    rw [afterAll_snoc]
    exact ih.after (summarise_does _ n)

end FirstCome

theorem afterAll_keeps (maxEntries : Nat) (calls more : List Node) :
    (afterAll maxEntries calls).entries <+: (afterAll maxEntries (calls ++ more)).entries := by
  induction more using List.reverseRecOn with
  | nil => simp
  | append_singleton more n ih =>
    rw [← List.append_assoc, afterAll_snoc]
    exact ih.trans (summarised_keeps (summarise_does _ n))

/-- First come, first kept. A call for one of the ids that are kept gets the summary of the node that
    came first with it; any other call gets a summary of its own node and leaves no trace. -/
theorem first_come_first_kept (maxEntries : Nat) (calls : List Node) :
    (afterAll maxEntries calls).ids = (firstIds calls).take maxEntries ∧
    (afterAll maxEntries calls).size ≤ maxEntries ∧
    (∀ more, (afterAll maxEntries calls).entries <+: (afterAll maxEntries (calls ++ more)).entries) ∧
    ∀ n : Node,
      (n.id ∈ (firstIds (calls ++ [n])).take maxEntries →
        ∃ first, firstCall? (calls ++ [n]) n.id = some first ∧
          ((afterAll maxEntries calls).summarise n).1 = first.summary ∧
          first.summary.Renders first) ∧
      (n.id ∉ (firstIds (calls ++ [n])).take maxEntries →
        (afterAll maxEntries calls).summarise n = (n.summary, afterAll maxEntries calls) ∧
          n.summary.Renders n) := by
  have first := FirstCome.through maxEntries calls
  have size := first.size_eq
  refine ⟨first.ids, by omega, afterAll_keeps maxEntries calls, fun n => ?_⟩
  have next := FirstCome.through maxEntries (calls ++ [n])
  rw [← next.ids, afterAll_snoc]
  obtain ⟨kept, other⟩ := first.answers (summarise_does _ n)
  refine ⟨fun present => ?_, fun absent => ?_⟩
  · obtain ⟨first, came, given⟩ := kept present
    exact ⟨first, came, given, first.summary_renders⟩
  · obtain ⟨given, same⟩ := other absent
    exact ⟨Prod.ext given same, n.summary_renders⟩

end NodeCache
end AlarmHistory
