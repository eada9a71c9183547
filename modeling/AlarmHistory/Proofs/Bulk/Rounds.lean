import AlarmHistory.Proofs.Bulk.Failures
import AlarmHistory.Store.Client
import Mathlib.Data.Set.Card

/- The rounds of an upload: one for each request, with what it carried and what came back. A run of
   rounds keeps account of the batch: every position is pending, or permanently refused, or has
   landed, and never two of these. -/
namespace AlarmHistory.Bulk
open Store

/-- A request of an upload. `reply` is the status and body that came back, or why none did. -/
structure Round where
  carried : List (Nat × AlarmDocument)
  reply : Except StoreError (Nat × String)

namespace Round

def actions (t : Target) (r : Round) : List Action := Bulk.actions t r.carried

def answer (r : Round) : Answer := Client.bulkAnswer r.reply

/-- All actions of a position that the request carried were answered with success. -/
def Landed (t : Target) (r : Round) (position : Nat) : Prop :=
  position ∈ r.carried.map Prod.fst ∧ ∃ text response, r.reply = .ok (200, text) ∧
    Json.decodeText Response.decoder text = .ok response ∧
    ∀ i a, (r.actions t)[i]? = some a → a.owner = position → response.Succeeds i

end Round

theorem answer_results_iff (reply : Except StoreError (Nat × String)) (response : Response) :
    Client.bulkAnswer reply = .results response ↔ ∃ text, reply = .ok (200, text) ∧
      Json.decodeText Response.decoder text = .ok response := by
  constructor
  · intro results
    cases reply with
    | error e => simp [Client.bulkAnswer, Client.bulkResults] at results
    | ok answered =>
      obtain ⟨status, text⟩ := answered
      by_cases accepted : status = 200
      · subst accepted
        cases decoded : Json.decodeText Response.decoder text with
        | error e =>
          simp [Client.bulkAnswer, Client.bulkResults, decoded, Except.mapError] at results
        | ok r =>
          simp only [Client.bulkAnswer, Client.bulkResults, decoded, Except.mapError,
            bne_self_eq_false, Bool.false_eq_true, ↓reduceIte, Answer.results.injEq] at results
          exact ⟨text, rfl, results ▸ decoded⟩
      · simp [Client.bulkAnswer, Client.bulkResults, accepted] at results
  · rintro ⟨text, rfl, decoded⟩
    simp [Client.bulkAnswer, Client.bulkResults, decoded, Except.mapError]

theorem owners_actionsOf (t : Target) (position : Nat) (d : AlarmDocument) :
    ∀ a ∈ actionsOf t position d, a.owner = position ∧ a.index = t.indexOf d ∧ a.id = d.id := by
  intro a member
  unfold actionsOf at member
  split at member <;> simp at member <;> grind

theorem action_of_document {t : Target} {docs : List (Nat × AlarmDocument)} {a : Action}
    (member : a ∈ actions t docs) :
    ∃ d, (a.owner, d) ∈ docs ∧ a.index = t.indexOf d ∧ a.id = d.id := by
  obtain ⟨⟨position, d⟩, carried, own⟩ := List.mem_flatMap.mp member
  obtain ⟨owner, index, id⟩ := owners_actionsOf t position d a own
  exact ⟨d, owner ▸ carried, index, id⟩

namespace Upload

theorem numbered_member {docs : List AlarmDocument} {p : Nat} {d : AlarmDocument} :
    (p, d) ∈ numbered docs ↔ docs[p]? = some d := by
  simp [numbered, List.mem_zipIdx_iff_getElem?]

theorem numbered_positions (docs : List AlarmDocument) :
    (numbered docs).map Prod.fst = List.range docs.length := by
  simp [numbered, List.range_eq_range', Function.comp_def]

theorem numbered_distinct (docs : List AlarmDocument) : DistinctKeys (numbered docs) := by
  rw [DistinctKeys, numbered_positions]
  exact List.nodup_range

theorem chosen_positions (docs : List AlarmDocument) (keep : Nat → Bool) :
    ((numbered docs).filter fun e => keep e.1).map Prod.fst =
      (List.range docs.length).filter keep := by
  rw [← numbered_positions, List.filter_map]
  rfl

def passing (u : Upload) (t : Target) (answer : Answer) : Positions Failure :=
  (u.failuresOf t answer).filter fun e => isRetryable e.2.status

def lasting (u : Upload) (t : Target) (answer : Answer) : Positions Failure :=
  (u.failuresOf t answer).filter fun e => !isRetryable e.2.status

def permanentAfter (u : Upload) (t : Target) (answer : Answer) : Positions Failure :=
  Positions.union u.permanent (u.lasting t answer)

theorem absorb_eq (u : Upload) (t : Target) (retries : Nat) (answer : Answer) :
    u.absorb t retries answer =
      if u.passing t answer = [] ∧ u.permanentAfter t answer = [] then .landed
      else if u.passing t answer = [] ∨ retries < u.attempts + 1 then
        .failed ({ u with attempts := u.attempts + 1 }.report t
          (Positions.union (u.permanentAfter t answer) (u.passing t answer)))
      else .again { u with
        attempts := u.attempts + 1
        permanent := u.permanentAfter t answer
        pending := u.batch.filter fun e => ((u.passing t answer).lookup e.1).isSome } := by
  simp only [absorb, List.partition_eq_filter_filter, Bool.and_eq_true, List.isEmpty_iff,
    Bool.or_eq_true, decide_eq_true_eq]
  rfl

theorem absorb_again {u next : Upload} {t : Target} {retries : Nat} {answer : Answer}
    (absorbed : u.absorb t retries answer = .again next) :
    next.attempts = u.attempts + 1 ∧ next.attempts ≤ retries := by
  rw [absorb_eq] at absorbed
  split at absorbed
  · cases absorbed
  · split at absorbed
    · cases absorbed
    · rename_i more
      obtain ⟨_, budget⟩ := not_or.mp more
      cases absorbed
      exact ⟨rfl, Nat.not_lt.mp budget⟩

section Failures
variable {u : Upload} (t : Target) (reply : Except StoreError (Nat × String))

theorem failures_distinct (distinct : DistinctKeys u.pending) (answer : Answer) :
    DistinctKeys (u.failuresOf t answer) := by
  cases answer with
  | results r => exact Positions.ascending_distinct (failures_ascending r _)
  | noResults reason =>
    simpa [DistinctKeys, failuresOf, Function.comp_def] using distinct

theorem failed_iff_not_landed (position : Nat) :
    (u.failuresOf t (Client.bulkAnswer reply)).lookup position = none ↔
      (position ∈ u.pending.map Prod.fst → Round.Landed t ⟨u.pending, reply⟩ position) := by
  cases given : Client.bulkAnswer reply with
  | results response =>
    obtain ⟨text, ok, decoded⟩ := (answer_results_iff reply response).mp given
    simp only [failuresOf, failed_iff]
    constructor
    · intro all carried
      refine ⟨carried, text, response, ok, decoded, fun i a here own => all i ?_⟩
      simp only [owners, List.getElem?_map, actions]
      simp only [Round.actions] at here
      rw [here, ← own]
      rfl
    · intro landed i here
      simp only [owners, List.getElem?_map, Option.map_eq_some_iff] at here
      obtain ⟨a, found, own⟩ := here
      obtain ⟨d, carried, _⟩ := action_of_document (List.mem_of_getElem? found)
      obtain ⟨_, text', response', ok', decoded', all⟩ :=
        landed (List.mem_map.mpr ⟨_, carried, own⟩)
      rw [ok, Except.ok.injEq, Prod.mk.injEq] at ok'
      rw [← ok'.2, decoded, Except.ok.injEq] at decoded'
      exact decoded' ▸ all i a found own
  | noResults reason =>
    simp only [failuresOf, lookup_unknown_iff, List.map_map]
    have never : ¬ Round.Landed t ⟨u.pending, reply⟩ position := by
      rintro ⟨_, text, response, ok, decoded, _⟩
      have results := (answer_results_iff reply response).mpr ⟨text, ok, decoded⟩
      rw [given] at results
      cases results
    exact ⟨fun absent carried => absurd carried absent, fun landed carried =>
      never (landed carried)⟩

theorem lookup_passing (distinct : DistinctKeys u.pending) (answer : Answer) (position : Nat) :
    (u.passing t answer).lookup position =
      ((u.failuresOf t answer).lookup position).filter fun f => isRetryable f.status :=
  lookup_filter (failures_distinct t distinct answer) (fun f => isRetryable f.status) position

theorem lookup_lasting (distinct : DistinctKeys u.pending) (answer : Answer) (position : Nat) :
    (u.lasting t answer).lookup position =
      ((u.failuresOf t answer).lookup position).filter fun f => !isRetryable f.status :=
  lookup_filter (failures_distinct t distinct answer) (fun f => !isRetryable f.status) position

theorem lookup_permanentAfter (distinct : DistinctKeys u.pending) (answer : Answer)
    (position : Nat) :
    (u.permanentAfter t answer).lookup position =
      ((u.lasting t answer).lookup position).or (u.permanent.lookup position) :=
  Positions.lookup_union u.permanent
    ((failures_distinct t distinct answer).sublist (List.filter_sublist.map Prod.fst)) position

end Failures

end Upload

def Report.positions (r : Report) : List Nat := r.unwritten.map Unwritten.position

/-- A report in good order: ascending positions of the batch, each with its document's names and
    the index of its actions. -/
structure Report.Describes (r : Report) (t : Target) (docs : List AlarmDocument) (attempts : Nat) :
    Prop where
  attempts : r.attempts = attempts
  total : r.total = docs.length
  ascending : r.positions.Pairwise (· < ·)
  small : ∀ p ∈ r.positions, p < docs.length
  named : ∀ w ∈ r.unwritten, ∃ d, docs[w.position]? = some d ∧ w.id = d.id ∧
    w.reductionKey = d.header.reductionKey ∧ w.index = t.indexOf d

theorem Report.Describes.landed_count {r : Report} {t : Target} {docs : List AlarmDocument}
    {attempts : Nat} (describes : r.Describes t docs attempts) {landed : Nat → Prop}
    (exact : ∀ p, p ∈ r.positions ↔ p < docs.length ∧ ¬ landed p) :
    r.unwritten.length ≤ r.total ∧
      r.total - r.unwritten.length = {p | p < docs.length ∧ landed p}.ncard := by
  have unique : r.positions.Nodup := describes.ascending.imp Nat.ne_of_lt
  have size : r.positions.toFinset.card = r.unwritten.length := by
    rw [List.toFinset_card_of_nodup unique, Report.positions, List.length_map]
  have inside : r.positions.toFinset ⊆ Finset.range docs.length := fun p member =>
    Finset.mem_range.mpr (describes.small p (List.mem_toFinset.mp member))
  have rest : {p | p < docs.length ∧ landed p} =
      ↑(Finset.range docs.length \ r.positions.toFinset) := by
    ext p
    simp only [Set.mem_ofPred_eq, Finset.coe_sdiff, Set.mem_sdiff, Finset.mem_coe, Finset.mem_range,
      List.mem_toFinset, exact]
    tauto
  have within := Finset.card_le_card inside
  rw [size, Finset.card_range] at within
  rw [describes.total, rest, Set.ncard_coe_finset, Finset.card_sdiff_of_subset inside, size,
    Finset.card_range]
  exact ⟨within, rfl⟩

namespace Upload

theorem report_positions {u : Upload} {docs : List AlarmDocument} (batch : u.batch = numbered docs)
    (t : Target) (failed : Positions Failure) :
    (u.report t failed).positions =
      (List.range docs.length).filter fun p => (failed.lookup p).isSome := by
  rw [← chosen_positions, ← batch]
  simp only [Report.positions, report]
  induction u.batch with
  | nil => rfl
  | cons e es ih =>
    cases found : failed.lookup e.1 with
    | none => simpa [found] using ih
    | some f => simpa [found] using ih

theorem report_describes {u : Upload} {docs : List AlarmDocument} (batch : u.batch = numbered docs)
    (t : Target) (failed : Positions Failure) :
    (u.report t failed).Describes t docs u.attempts where
  attempts := rfl
  total := by simp [report, batch, numbered]
  ascending := by
    rw [report_positions batch]
    exact List.pairwise_lt_range.filter _
  small p member := by
    rw [report_positions batch] at member
    exact List.mem_range.mp (List.mem_filter.mp member).1
  named w member := by
    obtain ⟨⟨p, d⟩, listed, made⟩ := List.mem_filterMap.mp member
    obtain ⟨f, _, rfl⟩ := Option.map_eq_some_iff.mp made
    exact ⟨d, numbered_member.mp (batch ▸ listed), rfl, rfl, rfl⟩

end Upload

namespace Upload

/-- The account of an upload after some rounds. -/
structure Accounts (u : Upload) (t : Target) (docs : List AlarmDocument) (past : List Round) :
    Prop where
  batch : u.batch = numbered docs
  attempts : u.attempts = past.length
  pending : u.pending.Sublist (numbered docs)
  known : ∀ p, (u.permanent.lookup p).isSome → p < docs.length
  waiting : ∀ p ∈ u.pending.map Prod.fst,
    u.permanent.lookup p = none ∧ ∀ r ∈ past, ¬ r.Landed t p
  settled : ∀ p < docs.length, p ∉ u.pending.map Prod.fst →
    (u.permanent.lookup p = none ↔ ∃ r ∈ past, r.Landed t p)

theorem accounts_start (t : Target) (docs : List AlarmDocument) :
    (ofBatch docs).Accounts t docs [] where
  batch := rfl
  attempts := rfl
  pending := List.Sublist.refl _
  known p some := by simp [ofBatch] at some
  waiting p _ := by simp [ofBatch]
  settled p small absent := by
    rw [ofBatch, numbered_positions] at absent
    exact absurd (List.mem_range.mpr small) absent

section Step
variable {u : Upload} {t : Target} {docs : List AlarmDocument} {past : List Round}
  (accounts : u.Accounts t docs past) (reply : Except StoreError (Nat × String))
include accounts

theorem Accounts.distinct : DistinctKeys u.pending :=
  (numbered_distinct docs).sublist (accounts.pending.map Prod.fst)

theorem Accounts.carried_small {p : Nat} (carried : p ∈ u.pending.map Prod.fst) :
    p < docs.length := by
  have listed := (accounts.pending.map Prod.fst).subset carried
  rwa [numbered_positions, List.mem_range] at listed

/-- After one more round: what has failed, for now or for good, is what has not landed. -/
theorem Accounts.failed_after {p : Nat} (small : p < docs.length) :
    ((u.passing t (Client.bulkAnswer reply)).lookup p).or
        ((u.permanentAfter t (Client.bulkAnswer reply)).lookup p) = none ↔
      ∃ r ∈ past ++ [⟨u.pending, reply⟩], r.Landed t p := by
  rw [lookup_permanentAfter t accounts.distinct, lookup_passing t accounts.distinct,
    lookup_lasting t accounts.distinct]
  have failed := failed_iff_not_landed (u := u) t reply p
  by_cases carried : p ∈ u.pending.map Prod.fst
  · obtain ⟨free, fresh⟩ := accounts.waiting p carried
    have now : (∃ r ∈ past ++ [⟨u.pending, reply⟩], r.Landed t p) ↔
        Round.Landed t ⟨u.pending, reply⟩ p := by
      simp only [List.mem_append, List.mem_singleton]
      constructor
      · rintro ⟨r, old | rfl, landed⟩
        · exact absurd landed (fresh r old)
        · exact landed
      · exact fun landed => ⟨_, Or.inr rfl, landed⟩
    rw [now, free]
    simp only [carried, forall_const] at failed
    rw [← failed]
    cases (u.failuresOf t (Client.bulkAnswer reply)).lookup p with
    | none => simp
    | some f => cases kind : isRetryable f.status <;> simp [Option.filter_some, kind]
  · have later : (∃ r ∈ past ++ [⟨u.pending, reply⟩], r.Landed t p) ↔
        ∃ r ∈ past, r.Landed t p := by
      simp only [List.mem_append, List.mem_singleton]
      constructor
      · rintro ⟨r, old | rfl, landed⟩
        · exact ⟨r, old, landed⟩
        · exact absurd landed.1 carried
      · exact fun ⟨r, old, landed⟩ => ⟨r, Or.inl old, landed⟩
    rw [later, ← accounts.settled p small carried]
    rw [failed.mpr fun c => absurd c carried]
    simp

theorem Accounts.known_after {p : Nat}
    (known : ((u.permanentAfter t (Client.bulkAnswer reply)).lookup p).isSome) :
    p < docs.length := by
  rw [lookup_permanentAfter t accounts.distinct] at known
  cases old : u.permanent.lookup p with
  | some f => exact accounts.known p (by simp [old])
  | none =>
    apply accounts.carried_small
    by_contra absent
    have fine := (failed_iff_not_landed (u := u) t reply p).mpr fun c => absurd c absent
    simp [lookup_lasting t accounts.distinct, fine, old] at known

theorem Accounts.passing_carried {p : Nat}
    (waits : ((u.passing t (Client.bulkAnswer reply)).lookup p).isSome) :
    p ∈ u.pending.map Prod.fst := by
  by_contra absent
  have fine := (failed_iff_not_landed (u := u) t reply p).mpr fun c => absurd c absent
  simp [lookup_passing t accounts.distinct, fine] at waits

theorem Accounts.passing_waits {p : Nat}
    (waits : ((u.passing t (Client.bulkAnswer reply)).lookup p).isSome) :
    (u.permanentAfter t (Client.bulkAnswer reply)).lookup p = none ∧
      ∀ r ∈ past ++ [⟨u.pending, reply⟩], ¬ r.Landed t p := by
  have carried := accounts.passing_carried reply waits
  constructor
  · rw [lookup_permanentAfter t accounts.distinct, (accounts.waiting p carried).1, Option.or_none,
      lookup_lasting t accounts.distinct]
    rw [lookup_passing t accounts.distinct] at waits
    cases found : (u.failuresOf t (Client.bulkAnswer reply)).lookup p with
    | none => rfl
    | some f =>
      rw [found] at waits
      cases kind : isRetryable f.status <;> simp_all [Option.filter_some]
  · intro r member landed
    have fine := (accounts.failed_after reply (accounts.carried_small carried)).mpr
      ⟨r, member, landed⟩
    rw [Option.or_eq_none_iff] at fine
    simp [fine.1] at waits

theorem Accounts.some_failed
    (trouble : ¬ (u.passing t (Client.bulkAnswer reply) = [] ∧
      u.permanentAfter t (Client.bulkAnswer reply) = [])) :
    ∃ p < docs.length, (((u.passing t (Client.bulkAnswer reply)).lookup p).or
      ((u.permanentAfter t (Client.bulkAnswer reply)).lookup p)).isSome := by
  simp only [Option.isSome_or, Bool.or_eq_true]
  by_cases idle : u.passing t (Client.bulkAnswer reply) = []
  · obtain ⟨p, known⟩ := some_key_known fun clear => trouble ⟨idle, clear⟩
    exact ⟨p, accounts.known_after reply known, Or.inr known⟩
  · obtain ⟨p, waits⟩ := some_key_known idle
    exact ⟨p, accounts.carried_small (accounts.passing_carried reply waits), Or.inl waits⟩

theorem Accounts.landed {retries : Nat}
    (absorbed : u.absorb t retries (Client.bulkAnswer reply) = .landed) {p : Nat}
    (small : p < docs.length) : ∃ r ∈ past ++ [⟨u.pending, reply⟩], r.Landed t p := by
  rw [← accounts.failed_after reply small]
  rw [absorb_eq] at absorbed
  split at absorbed
  · rename_i clear
    rw [clear.1, clear.2]
    rfl
  · split at absorbed <;> cases absorbed

theorem Accounts.failed {retries : Nat} {report : Report}
    (absorbed : u.absorb t retries (Client.bulkAnswer reply) = .failed report) :
    report.Describes t docs (past.length + 1) ∧ report.positions ≠ [] ∧
      ∀ p, p ∈ report.positions ↔
        p < docs.length ∧ ¬ ∃ r ∈ past ++ [⟨u.pending, reply⟩], r.Landed t p := by
  rw [absorb_eq] at absorbed
  split at absorbed
  · cases absorbed
  · rename_i trouble
    split at absorbed
    · cases absorbed
      have batch : { u with attempts := u.attempts + 1 }.batch = numbered docs := accounts.batch
      have distinct : DistinctKeys (u.passing t (Client.bulkAnswer reply)) :=
        (failures_distinct t accounts.distinct _).sublist (List.filter_sublist.map Prod.fst)
      simp only [report_positions batch, List.mem_filter, List.mem_range,
        Positions.lookup_union _ distinct]
      refine ⟨accounts.attempts ▸ report_describes batch t _, ?_, fun p => ?_⟩
      · obtain ⟨p, small, lost⟩ := accounts.some_failed reply trouble
        exact List.ne_nil_of_mem (List.mem_filter.mpr ⟨List.mem_range.mpr small, lost⟩)
      · apply and_congr_right
        intro small
        rw [← accounts.failed_after reply small, ← Option.ne_none_iff_isSome]
    · cases absorbed

theorem Accounts.again {next : Upload} {retries : Nat}
    (absorbed : u.absorb t retries (Client.bulkAnswer reply) = .again next) :
    next.Accounts t docs (past ++ [⟨u.pending, reply⟩]) := by
  rw [absorb_eq] at absorbed
  split at absorbed
  · cases absorbed
  · split at absorbed
    · cases absorbed
    · cases absorbed
      have positions := chosen_positions docs fun p =>
        ((u.passing t (Client.bulkAnswer reply)).lookup p).isSome
      refine ⟨accounts.batch, ?_, ?_, fun p known => accounts.known_after reply known, ?_, ?_⟩
      · rw [List.length_append, ← accounts.attempts]
        rfl
      · exact accounts.batch ▸ List.filter_sublist
      · intro p waits
        rw [accounts.batch, positions, List.mem_filter] at waits
        exact accounts.passing_waits reply waits.2
      · intro p small absent
        rw [accounts.batch, positions, List.mem_filter, List.mem_range] at absent
        have idle : (u.passing t (Client.bulkAnswer reply)).lookup p = none :=
          Option.not_isSome_iff_eq_none.mp fun waits => absent ⟨small, waits⟩
        rw [← accounts.failed_after reply small, idle, Option.none_or]

end Step

/-- A run of an upload to its end, round by round. -/
inductive Run (t : Target) (retries : Nat) : Upload → List Round → Except Report Unit → Prop where
  | landed {u : Upload} {reply : Except StoreError (Nat × String)}
      (absorbed : u.absorb t retries (Client.bulkAnswer reply) = .landed) :
      Run t retries u [⟨u.pending, reply⟩] (.ok ())
  | failed {u : Upload} {reply : Except StoreError (Nat × String)} {report : Report}
      (absorbed : u.absorb t retries (Client.bulkAnswer reply) = .failed report) :
      Run t retries u [⟨u.pending, reply⟩] (.error report)
  | again {u next : Upload} {reply : Except StoreError (Nat × String)} {later : List Round}
      {out : Except Report Unit}
      (absorbed : u.absorb t retries (Client.bulkAnswer reply) = .again next)
      (rest : Run t retries next later out) : Run t retries u (⟨u.pending, reply⟩ :: later) out

def reported : Except Report Unit → List Nat
  | .ok () => []
  | .error report => report.positions

section Run
variable {t : Target} {retries : Nat} {u : Upload} {later : List Round} {out : Except Report Unit}
  (run : Run t retries u later out) {docs : List AlarmDocument} {past : List Round}
  (accounts : u.Accounts t docs past)
include run accounts

theorem Run.reported_iff (p : Nat) :
    p ∈ reported out ↔ p < docs.length ∧ ¬ ∃ r ∈ past ++ later, r.Landed t p := by
  induction run generalizing past with
  | landed absorbed =>
    simp only [reported, List.not_mem_nil, false_iff, not_and, not_not]
    exact accounts.landed _ absorbed
  | failed absorbed => exact (accounts.failed _ absorbed).2.2 p
  | again absorbed rest ih =>
    have further := ih (accounts.again _ absorbed)
    rwa [List.append_assoc] at further

theorem Run.ok_iff : out = .ok () ↔ reported out = [] := by
  induction run generalizing past with
  | landed absorbed => simp [reported]
  | failed absorbed => simpa [reported] using (accounts.failed _ absorbed).2.1
  | again absorbed rest ih => exact ih (accounts.again _ absorbed)

theorem Run.report_describes {report : Report} (failed : out = .error report) :
    report.Describes t docs (past ++ later).length := by
  induction run generalizing past with
  | landed absorbed => cases failed
  | failed absorbed =>
    cases failed
    simpa using (accounts.failed _ absorbed).1
  | again absorbed rest ih =>
    have further := ih (accounts.again _ absorbed) failed
    rwa [List.append_assoc] at further

theorem Run.carried_fresh :
    ∀ r ∈ later, ∀ p ∈ r.carried.map Prod.fst, ∀ o ∈ past, ¬ o.Landed t p := by
  induction run generalizing past with
  | landed absorbed | failed absorbed =>
    intro r member p carried
    rw [List.mem_singleton.mp member] at carried
    exact (accounts.waiting p carried).2
  | again absorbed rest ih =>
    intro r member p carried o before
    rcases List.mem_cons.mp member with first | later
    · rw [first] at carried
      exact (accounts.waiting p carried).2 o before
    · exact ih (accounts.again _ absorbed) r later p carried o (List.mem_append_left _ before)

theorem Run.landed_once :
    later.Pairwise fun o r => ∀ p ∈ r.carried.map Prod.fst, ¬ o.Landed t p := by
  induction run generalizing past with
  | landed absorbed | failed absorbed => exact List.pairwise_singleton _ _
  | again absorbed rest ih =>
    have next := accounts.again _ absorbed
    refine List.pairwise_cons.mpr ⟨fun r member p carried => ?_, ih next⟩
    exact rest.carried_fresh next r member p carried _ (List.mem_append_right _ (by simp))

theorem Run.carried_numbered : ∀ r ∈ later, r.carried.Sublist (numbered docs) := by
  induction run generalizing past with
  | landed absorbed | failed absorbed =>
    intro r member
    rw [List.mem_singleton.mp member]
    exact accounts.pending
  | again absorbed rest ih =>
    intro r member
    rcases List.mem_cons.mp member with first | later
    · rw [first]
      exact accounts.pending
    · exact ih (accounts.again _ absorbed) r later

omit accounts in
theorem Run.first_carries : (later.head?.map Round.carried) = some u.pending := by
  cases run <;> rfl

theorem Run.length_le (budget : u.attempts ≤ retries) : (past ++ later).length ≤ retries + 1 := by
  induction run generalizing past with
  | landed absorbed | failed absorbed =>
    have spent := accounts.attempts
    simp only [List.length_append, List.length_singleton]
    omega
  | again absorbed rest ih =>
    have short := ih (accounts.again _ absorbed) (absorb_again absorbed).2
    rwa [List.append_assoc] at short

end Run
end Upload
end AlarmHistory.Bulk
