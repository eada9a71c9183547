import AlarmHistory.Proofs.Bulk.Attribution
import AlarmHistory.Proofs.Bulk.Rounds

/- What an upload sends again. Each document that a request carries has landed with it, or is refused
   for good, or may still land; the next request carries those of the last kind and no others. -/
namespace AlarmHistory.Bulk
open Store

/-- The status of a failure that may pass: there is none, or it tells of overload or of trouble in
    the store. -/
def Passing (status : Option Nat) : Prop :=
  status = none ∨ status = some 429 ∨ ∃ s, status = some s ∧ 500 ≤ s

theorem isRetryable_iff (status : Option Nat) : isRetryable status = true ↔ Passing status := by
  cases status <;> simp [isRetryable, Passing]

namespace Round

def Results (r : Round) (response : Response) : Prop :=
  ∃ text, r.reply = .ok (200, text) ∧ Json.decodeText Response.decoder text = .ok response

def Failed (t : Target) (r : Round) (p : Nat) (f : Failure) : Prop :=
  ∃ response, r.Results response ∧ FirstFault response.resultAt (owners (r.actions t)) p f

/-- Worth another attempt. Without results everything is that the request carried. -/
def Retryable (t : Target) (r : Round) (p : Nat) : Prop :=
  p ∈ r.carried.map Prod.fst ∧
    ((∃ f, r.Failed t p f ∧ Passing f.status) ∨ ¬ ∃ response, r.Results response)

theorem firstFault_carried {t : Target} {r : Round} {results : Nat → Option Result} {p : Nat}
    {f : Failure} (fault : FirstFault results (owners (r.actions t)) p f) :
    p ∈ r.carried.map Prod.fst := by
  obtain ⟨i, owns, _⟩ := fault
  obtain ⟨a, member, rfl⟩ := List.mem_map.mp (List.mem_of_getElem? owns)
  obtain ⟨d, carried, _⟩ := action_of_document member
  exact List.mem_map_of_mem carried

theorem failed_results {t : Target} {r : Round} {response : Response}
    (answered : r.Results response) (p : Nat) (f : Failure) :
    r.Failed t p f ↔ FirstFault response.resultAt (owners (r.actions t)) p f := by
  refine ⟨fun ⟨other, answered', fault⟩ => ?_, fun fault => ⟨response, answered, fault⟩⟩
  have first := (answer_results_iff r.reply response).mpr answered
  have second := (answer_results_iff r.reply other).mpr answered'
  rw [first, Answer.results.injEq] at second
  exact second ▸ fault

end Round

namespace Upload

section Step
variable {u : Upload} (t : Target) (reply : Except StoreError (Nat × String))

theorem passing_iff_retryable (distinct : DistinctKeys u.pending) (p : Nat) :
    ((u.passing t (Client.bulkAnswer reply)).lookup p).isSome ↔
      Round.Retryable t ⟨u.pending, reply⟩ p := by
  rw [lookup_passing t distinct, Option.isSome_filter, Option.any_eq_true, Round.Retryable]
  simp only [isRetryable_iff]
  cases given : Client.bulkAnswer reply with
  | results response =>
    have answered : Round.Results ⟨u.pending, reply⟩ response :=
      (answer_results_iff reply response).mp given
    have first : ∀ f, (u.failuresOf t (.results response)).lookup p = some f ↔
        Round.Failed t ⟨u.pending, reply⟩ p f := fun f => by
      rw [Round.failed_results answered]
      exact lookup_failures_iff response _ p f
    simp only [first]
    constructor
    · rintro ⟨f, failed, passing⟩
      exact ⟨Round.firstFault_carried ((Round.failed_results answered p f).mp failed),
        Or.inl ⟨f, failed, passing⟩⟩
    · rintro ⟨_, some | none⟩
      · exact some
      · exact absurd ⟨response, answered⟩ none
  | noResults reason =>
    have unanswered : ¬ ∃ response, Round.Results ⟨u.pending, reply⟩ response := by
      rintro ⟨response, answered⟩
      have results := (answer_results_iff reply response).mpr answered
      rw [given] at results
      cases results
    have positions : (u.failuresOf t (.noResults reason)).map Prod.fst = u.pending.map Prod.fst := by
      simp [failuresOf, Function.comp_def]
    constructor
    · rintro ⟨f, known, _⟩
      have listed := (lookup_known_iff _ p).mp (by rw [known]; rfl)
      exact ⟨positions ▸ listed, Or.inr unanswered⟩
    · rintro ⟨carried, _⟩
      obtain ⟨f, known⟩ := Option.isSome_iff_exists.mp
        ((lookup_known_iff (u.failuresOf t (.noResults reason)) p).mpr (positions ▸ carried))
      obtain ⟨_, _, made⟩ := List.mem_map.mp (member_of_lookup known)
      refine ⟨f, known, Or.inl ?_⟩
      rw [← (Prod.mk.inj made).2]

theorem absorb_pending {next : Upload} {retries : Nat}
    (absorbed : u.absorb t retries (Client.bulkAnswer reply) = .again next) :
    next.pending = u.batch.filter fun e =>
      ((u.passing t (Client.bulkAnswer reply)).lookup e.1).isSome := by
  rw [absorb_eq] at absorbed
  split at absorbed
  · cases absorbed
  · split at absorbed <;> cases absorbed
    rfl

end Step

/-- A request carries, in ascending order, the documents that the one before it left to be sent. -/
structure Resends (t : Target) (docs : List AlarmDocument) (r next : Round) : Prop where
  ascending : (next.carried.map Prod.fst).Pairwise (· < ·)
  carried : ∀ p d, (p, d) ∈ next.carried ↔ docs[p]? = some d ∧ r.Retryable t p

theorem Resends.positions {t : Target} {docs : List AlarmDocument} {r next : Round}
    (resends : Resends t docs r next) {p : Nat} (member : p ∈ next.carried.map Prod.fst) :
    r.Retryable t p := by
  obtain ⟨⟨p, d⟩, listed, rfl⟩ := List.mem_map.mp member
  exact ((resends.carried p d).mp listed).2

section Run
variable {t : Target} {retries : Nat} {u : Upload} {later : List Round} {out : Except Report Unit}
  (run : Run t retries u later out) {docs : List AlarmDocument} {past : List Round}
  (accounts : u.Accounts t docs past)

theorem again_resends {next : Upload} {reply : Except StoreError (Nat × String)}
    (accounts : u.Accounts t docs past)
    (absorbed : u.absorb t retries (Client.bulkAnswer reply) = .again next) (r : Round)
    (carries : r.carried = next.pending) : Resends t docs ⟨u.pending, reply⟩ r where
  ascending := by
    rw [carries, absorb_pending t reply absorbed, accounts.batch, chosen_positions docs fun p =>
      ((u.passing t (Client.bulkAnswer reply)).lookup p).isSome]
    exact List.pairwise_lt_range.filter _
  carried p d := by
    rw [carries, absorb_pending t reply absorbed, accounts.batch, List.mem_filter, numbered_member,
      passing_iff_retryable t reply accounts.distinct]

include run

include accounts

theorem Run.resends : later.IsChain (Resends t docs) := by
  induction run generalizing past with
  | landed absorbed | failed absorbed => exact List.isChain_singleton _
  | again absorbed rest ih =>
    refine List.isChain_cons.mpr ⟨fun r first => ?_, ih (accounts.again _ absorbed)⟩
    have carries := rest.first_carries
    rw [first] at carries
    exact again_resends accounts absorbed r (Option.some.inj carries)

end Run
end Upload
end AlarmHistory.Bulk
