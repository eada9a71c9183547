import AlarmHistory.Bulk.Request
import AlarmHistory.Proofs.Lookup

/- Scripts as a store runs them. A script is read from its text: loops over names, tests for null,
   new lists, and appending one list to another. It works on the members of the stored document, and
   has parameters. The script that appends log entries is such a text, and does what it says. -/
namespace AlarmHistory.Store
open Bulk

abbrev Members := List (String × Json)

def Members.put (k : String) (v : Json) : Members → Members
  | [] => [(k, v)]
  | (l, w) :: rest => if k = l then (k, v) :: rest else (l, w) :: put k v rest

theorem lookup_put (k l : String) (v : Json) (ms : Members) :
    (ms.put k v).lookup l = if l = k then some v else ms.lookup l := by
  induction ms with
  | nil => exact lookup_cons_if l k v []
  | cons e ms ih =>
    obtain ⟨m, w⟩ := e
    simp only [Members.put]
    split
    · rename_i same
      subst same
      rw [lookup_cons_if, lookup_cons_if]
      split <;> rfl
    · rename_i other
      rw [lookup_cons_if, lookup_cons_if, ih]
      split
      · rename_i here
        exact (if_neg fun same => other (same.symm.trans here)).symm
      · rfl

theorem put_distinct (k : String) (v : Json) {ms : Members} (distinct : DistinctKeys ms) :
    DistinctKeys (ms.put k v) := by
  induction ms with
  | nil => simp [Members.put, DistinctKeys]
  | cons e ms ih =>
    obtain ⟨m, w⟩ := e
    obtain ⟨once, rest⟩ := List.nodup_cons.mp distinct
    simp only [Members.put]
    split
    · rename_i same
      subst same
      exact distinct
    · rename_i other
      refine List.nodup_cons.mpr ⟨fun again => ?_, ih rest⟩
      rw [← lookup_known_iff, lookup_put, if_neg fun same => other same.symm, lookup_known_iff]
        at again
      exact once again

namespace Procedure

inductive Token where
  | word (s : String)
  | text (s : String)
  | mark (c : Char)
  deriving DecidableEq, Repr

def finishWord (done : List Char) : List Token :=
  if done.isEmpty then [] else [.word (String.ofList done.reverse)]

/-- `quote` holds an open text and `done` an open word, both in reverse. -/
def tokensFrom (quote : Option (List Char)) (done : List Char) : List Char → List Token
  | [] => finishWord done
  | c :: cs =>
    match quote with
    | some q =>
      if c = '\'' then .text (String.ofList q.reverse) :: tokensFrom none [] cs
      else tokensFrom (some (c :: q)) [] cs
    | none =>
      if c = '\'' then finishWord done ++ tokensFrom (some []) [] cs
      else if c.isAlpha || c = '_' then tokensFrom none (c :: done) cs
      else if c = ' ' then finishWord done ++ tokensFrom none [] cs
      else finishWord done ++ .mark c :: tokensFrom none [] cs

def tokens (s : String) : List Token := tokensFrom none [] s.toList

/-- The member of the document, or of the parameters, whose name a variable holds. -/
inductive Slot where
  | source (variable_ : String)
  | params (variable_ : String)
  deriving DecidableEq, Repr

inductive Statement where
  | skip
  | andThen (first rest : Statement)
  | each (variable_ : String) (names : List String) (body : Statement)
  | ifNull (isNull : Bool) (slot : Slot) (body : Statement)
  | create (slot : Slot)
  | addAll (slot more : Slot)
  deriving DecidableEq, Repr

def after? : List Token → List Token → Option (List Token)
  | [], ts => some ts
  | _ :: _, [] => none
  | a :: as, t :: ts => if a = t then after? as ts else none

def expect (s : String) (ts : List Token) : Option (List Token) := after? (tokens s) ts

def word? : List Token → Option (String × List Token)
  | .word s :: ts => some (s, ts)
  | _ => none

def texts? : List Token → Option (List String × List Token)
  | .text s :: .mark ',' :: ts => (texts? ts).map fun (ss, ts) => (s :: ss, ts)
  | .text s :: ts => some ([s], ts)
  | _ => none

def slot? (ts : List Token) : Option (Slot × List Token) := do
  let (make, ts) ← ((expect "ctx._source[" ts).map fun ts => (Slot.source, ts)) <|>
    ((expect "params[" ts).map fun ts => (Slot.params, ts))
  let (v, ts) ← word? ts
  let ts ← expect "]" ts
  return (make v, ts)

mutual

/-- A statement at the beginning of the tokens. No more than `depth` may be open at once. -/
def statement? (depth : Nat) (ts : List Token) : Option (Statement × List Token) :=
  match depth with
  | 0 => none
  | depth + 1 =>
    (do
      let (v, ts) ← word? (← expect "for (String" ts)
      let (names, ts) ← texts? (← expect ": [" ts)
      let (body, ts) ← block? depth (← expect "]) \x7b" ts)
      return (.each v names body, ts)) <|>
    (do
      let (slot, ts) ← slot? (← expect "if (" ts)
      let (isNull, ts) ← ((expect "== null) \x7b" ts).map fun ts => (true, ts)) <|>
        ((expect "!= null) \x7b" ts).map fun ts => (false, ts))
      let (body, ts) ← block? depth ts
      return (.ifNull isNull slot body, ts)) <|>
    (do
      let (slot, ts) ← slot? ts
      ((expect "= new ArrayList();" ts).map fun ts => (.create slot, ts)) <|>
        (do
          let (more, ts) ← slot? (← expect ".addAll(" ts)
          return (.addAll slot more, ← expect ");" ts)))

def block? (depth : Nat) (ts : List Token) : Option (Statement × List Token) :=
  match depth with
  | 0 => none
  | depth + 1 =>
    ((expect "\x7d" ts).map fun ts => (.skip, ts)) <|>
    (do
      let (first, ts) ← statement? depth ts
      let (rest, ts) ← block? depth ts
      return (.andThen first rest, ts))

end

def ofText? (s : String) : Option Statement := do
  let ts := tokens s ++ [.mark '\x7d']
  match ← block? ts.length ts with
  | (statement, []) => some statement
  | _ => none

section Run
variable (params : Members)

def Slot.value? (names : List (String × String)) (source : Members) : Slot → Option Json
  | .source v => (names.lookup v).map fun k => (source.lookup k).getD .null
  | .params v => (names.lookup v).map fun k => (params.lookup k).getD .null

def isNull : Json → Bool
  | .null => true
  | _ => false

def Statement.run (names : List (String × String)) : Statement → Members → Option Members
  | .skip, source => some source
  | .andThen first rest, source => (first.run names source).bind (rest.run names)
  | .each v ks body, source => ks.foldlM (fun source k => body.run ((v, k) :: names) source) source
  | .ifNull null slot body, source => do
    let v ← slot.value? params names source
    if isNull v = null then body.run names source else some source
  | .create (.source v), source => (names.lookup v).map fun k => source.put k (.arr [])
  | .create (.params _), _ => none
  | .addAll (.source v) more, source => do
    let k ← names.lookup v
    match source.lookup k, ← more.value? params names source with
    | some (.arr old), .arr new => some (source.put k (.arr (old ++ new)))
    | _, _ => none
  | .addAll (.params _) _, _ => none

end Run

def appendingOne : Statement :=
  .andThen (.ifNull true (.source "f") (.andThen (.create (.source "f")) .skip))
    (.andThen (.ifNull false (.params "f")
      (.andThen (.addAll (.source "f") (.params "f")) .skip)) .skip)

theorem ofText_appendScript :
    ofText? appendScript = some (.andThen (.each "f" logNames appendingOne) .skip) := by
  decide +kernel

section Appending
variable {params : Members} {old new : String → List Json}

def Lists (source : Members) (k : String) (vs : List Json) : Prop :=
  source.lookup k = none ∧ vs = [] ∨ source.lookup k = some (.arr vs)

theorem appendingOne_run {source : Members} {k : String} (distinct : DistinctKeys source)
    (stored : Lists source k (old k)) (given : params.lookup k = some (.arr (new k))) :
    ∃ after, appendingOne.run params [("f", k)] source = some after ∧ DistinctKeys after ∧
      ∀ l, after.lookup l = if l = k then some (.arr (old k ++ new k)) else source.lookup l := by
  have variable_ : [("f", k)].lookup "f" = some k := rfl
  obtain ⟨made, making, distinct', there, others⟩ : ∃ made : Members,
      (Statement.ifNull true (.source "f") (.andThen (.create (.source "f")) .skip)).run params
        [("f", k)] source = some made ∧ DistinctKeys made ∧ made.lookup k = some (.arr (old k)) ∧
        ∀ l, l ≠ k → made.lookup l = source.lookup l := by
    rcases stored with ⟨missing, empty⟩ | there
    · refine ⟨source.put k (.arr []), ?_, put_distinct k _ distinct, ?_, fun l other => ?_⟩
      · simp [Statement.run, Slot.value?, missing, isNull]
      · rw [lookup_put, if_pos rfl, empty]
      · rw [lookup_put, if_neg other]
    · refine ⟨source, ?_, distinct, there, fun _ _ => rfl⟩
      simp [Statement.run, Slot.value?, there, isNull]
  refine ⟨made.put k (.arr (old k ++ new k)), ?_, put_distinct k _ distinct', fun l => ?_⟩
  · rw [appendingOne, Statement.run, making]
    simp [Statement.run, Slot.value?, given, there, isNull]
  · rw [lookup_put]
    split
    · rfl
    · rename_i other
      exact others l other

theorem each_run {ks : List String} {source : Members} (once : ks.Nodup)
    (distinct : DistinctKeys source) (stored : ∀ k ∈ ks, Lists source k (old k))
    (given : ∀ k ∈ ks, params.lookup k = some (.arr (new k))) :
    ∃ after, (Statement.each "f" ks appendingOne).run params [] source = some after ∧
      DistinctKeys after ∧ ∀ l, after.lookup l =
        if l ∈ ks then some (.arr (old l ++ new l)) else source.lookup l := by
  induction ks generalizing source with
  | nil => exact ⟨source, rfl, distinct, fun l => by simp⟩
  | cons k ks ih =>
    obtain ⟨fresh, once⟩ := List.nodup_cons.mp once
    obtain ⟨next, first, distinct, lookups⟩ := appendingOne_run distinct
      (stored k List.mem_cons_self) (given k List.mem_cons_self)
    have stored' : ∀ l ∈ ks, Lists next l (old l) := by
      intro l member
      have other : l ≠ k := fun same => fresh (same ▸ member)
      rw [Lists, lookups l, if_neg other]
      exact stored l (List.mem_cons_of_mem k member)
    obtain ⟨after, rest, distinct, lookups'⟩ := ih once distinct stored'
      fun l member => given l (List.mem_cons_of_mem k member)
    refine ⟨after, ?_, distinct, fun l => ?_⟩
    · rw [Statement.run] at rest ⊢
      rw [List.foldlM_cons, first]
      exact rest
    · rw [lookups' l]
      by_cases here : l ∈ ks
      · rw [if_pos here, if_pos (List.mem_cons_of_mem k here)]
      · rw [if_neg here, lookups l]
        by_cases same : l = k
        · rw [if_pos same, if_pos (by simp [same]), same]
        · rw [if_neg same, if_neg (by simp [same, here])]

end Appending

/-- The script as a store runs it: every log is there afterwards, with the new entries at its
    end. -/
theorem appendScript_run {params source : Members} {old new : String → List Json}
    (distinct : DistinctKeys source) (stored : ∀ k ∈ logNames, Lists source k (old k))
    (given : ∀ k ∈ logNames, params.lookup k = some (.arr (new k))) :
    ∃ statement after, ofText? appendScript = some statement ∧
      statement.run params [] source = some after ∧ DistinctKeys after ∧
      ∀ l, after.lookup l =
        if l ∈ logNames then some (.arr (old l ++ new l)) else source.lookup l := by
  obtain ⟨after, run, distinct, lookups⟩ := each_run (by decide) distinct stored given
  refine ⟨_, after, ofText_appendScript, ?_, distinct, lookups⟩
  rw [Statement.run, run]
  rfl

end Procedure
end AlarmHistory.Store
