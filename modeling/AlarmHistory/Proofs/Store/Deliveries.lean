import AlarmHistory.Proofs.Store.History
import AlarmHistory.Proofs.Writer.Tally

/- A writer whose batches a client uploads to a store. What the counters of the writer say is then
   what has landed: the client names the documents that have not, each of them once. -/
namespace AlarmHistory.Store
open Bulk
variable {σ : Type}

structure Uploader (σ : Type) where
  writer : Writer AlarmDocument
  client : Client
  store : σ

/-- A batch that was uploaded, with the client and the store as the upload found them. -/
structure Delivery (σ : Type) where
  batch : List AlarmDocument
  client : Client
  store : σ

namespace Delivery
variable (link : Link (StateM σ)) (d : Delivery σ)

def result : (Except Bulk.Report Unit × Client) × σ := d.client.upload link d.batch d.store

def hasFailed : Bool := !(d.result link).1.1.isOk

def failed : Option Nat :=
  match (d.result link).1.1 with
  | .ok () => none
  | .error report => some report.unwritten.length

def flush : Writer.Flush AlarmDocument := ⟨d.batch, d.failed link⟩

/-- The positions of which all actions were answered with success in one request. -/
def landed : Set Nat :=
  {p | p < d.batch.length ∧ ∃ r ∈ d.client.history link d.batch d.store, r.Landed d.client.target p}

theorem failed_isSome : (d.failed link).isSome = d.hasFailed link := by
  unfold failed hasFailed
  cases (d.result link).1.1 <;> rfl

theorem landed_count (some_document : d.batch ≠ []) :
    (d.failed link).getD 0 ≤ d.batch.length ∧
      d.batch.length - (d.failed link).getD 0 = (d.landed link).ncard := by
  have run := Client.upload_run link d.client some_document d.store
  have accounts := Upload.accounts_start d.client.target d.batch
  have exact := run.reported_iff accounts
  rw [List.nil_append] at exact
  cases ended : (d.client.upload link d.batch d.store).1.1 with
  | ok done =>
    have none_failed : d.failed link = none := by simp [failed, result, ended]
    have all : d.landed link = ↑(Finset.range d.batch.length) := by
      ext p
      simp only [ended, Upload.reported, List.not_mem_nil, false_iff, not_and, not_not] at exact
      simp only [landed, Set.mem_ofPred_eq, Finset.mem_coe, Finset.mem_range]
      exact and_iff_left_of_imp (exact p)
    rw [none_failed, all, Set.ncard_coe_finset, Finset.card_range]
    exact ⟨Nat.zero_le _, rfl⟩
  | error report =>
    have named : d.failed link = some report.unwritten.length := by simp [failed, result, ended]
    have describes := run.report_describes accounts ended
    rw [ended] at exact
    have count := describes.landed_count exact
    rw [describes.total] at count
    rw [named]
    exact count

theorem written_count (some_document : d.batch ≠ []) :
    (d.flush link).written = (d.landed link).ncard := by
  obtain ⟨within, count⟩ := d.landed_count link some_document
  rw [← count]
  simp only [Writer.Flush.written, Writer.Flush.unwritten, flush]
  omega

end Delivery

namespace Uploader

/-- What the writer does by itself or is told, the end of an upload, and what others do with the
    client and the store meanwhile. -/
inductive Event (σ : Type) where
  | writer (e : Writer.Event AlarmDocument)
  | uploaded
  | elsewhere (templateReady : Bool) (store : σ)

def outgoing? (u : Uploader σ) : Option (Delivery σ) :=
  u.writer.phase.outgoing?.map fun batch => ⟨batch, u.client, u.store⟩

section Runs
variable (link : Link (StateM σ))

def deliver (u : Uploader σ) (d : Delivery σ) : Uploader σ where
  writer := u.writer.flushEnded (d.failed link)
  client := (d.result link).1.2
  store := (d.result link).2

def after? (u : Uploader σ) : Event σ → Option (Uploader σ)
  | .writer e =>
    if e.isFlushEnd then none else (u.writer.after? e).map fun writer => { u with writer }
  | .uploaded => u.outgoing?.map (u.deliver link)
  | .elsewhere templateReady store => some { u with client := { u.client with templateReady }, store }

def run? (u : Uploader σ) (es : List (Event σ)) : Option (Uploader σ) := es.foldlM (after? link) u

def deliveredBy? (u : Uploader σ) : Event σ → Option (Delivery σ)
  | .uploaded => u.outgoing?
  | _ => none

def deliveries (u : Uploader σ) : List (Event σ) → List (Delivery σ)
  | [] => []
  | e :: es => (u.deliveredBy? e).toList ++
    match u.after? link e with
    | some v => v.deliveries es
    | none => []

end Runs

section Steps
variable {link : Link (StateM σ)} {u v : Uploader σ} {e : Event σ} {es : List (Event σ)}

theorem after_flushes (happens : u.after? link e = some v) :
    ∃ fs, u.writer.run? fs = some v.writer ∧
      u.writer.flushes fs = (u.deliveredBy? e).toList.map (Delivery.flush link) := by
  cases e with
  | writer e =>
    simp only [after?] at happens
    split at happens
    · cases happens
    · rename_i unended
      obtain ⟨w, moved, rfl⟩ := Option.map_eq_some_iff.mp happens
      refine ⟨[e], run_cons_iff.mpr ⟨w, moved, rfl⟩, ?_⟩
      rw [Writer.flushes_cons moved, Writer.ends_nothing (by simpa using unended)]
      rfl
  | uploaded =>
    obtain ⟨d, out, rfl⟩ := Option.map_eq_some_iff.mp happens
    obtain ⟨batch, flushing, rfl⟩ := Option.map_eq_some_iff.mp out
    obtain ⟨moves, ends⟩ := Writer.flush_ends (Writer.outgoing_iff.mp flushing)
      (Delivery.failed link ⟨batch, u.client, u.store⟩)
    refine ⟨[_], run_cons_iff.mpr ⟨_, moves, rfl⟩, ?_⟩
    rw [Writer.flushes_cons moves, ends, deliveredBy?, out]
    rfl
  | elsewhere ready store =>
    cases happens
    exact ⟨[], rfl, rfl⟩

theorem run_flushes (run : u.run? link es = some v) :
    ∃ fs, u.writer.run? fs = some v.writer ∧
      u.writer.flushes fs = (u.deliveries link es).map (Delivery.flush link) := by
  induction es generalizing u with
  | nil =>
    cases run
    exact ⟨[], rfl, rfl⟩
  | cons e es ih =>
    obtain ⟨w, happens, rest⟩ := run_cons_iff.mp run
    obtain ⟨gs, first, one⟩ := after_flushes happens
    obtain ⟨fs, later, more⟩ := ih rest
    refine ⟨gs ++ fs, run_append_iff.mpr ⟨w.writer, first, later⟩, ?_⟩
    rw [Writer.flushes_append first, one, more, deliveries, happens, List.map_append]

end Steps

def ofSize (size capacity : Nat) (client : Client) (store : σ) : Uploader σ where
  writer := .ofSize size (.ofCapacity capacity)
  client := client
  store := store

theorem run_tallied {size capacity : Nat} {link : Link (StateM σ)} {c : Client} {s : σ}
    {es : List (Event σ)} {u : Uploader σ} (run : (ofSize size capacity c s).run? link es = some u) :
    u.writer.Tallied (((ofSize size capacity c s).deliveries link es).map (Delivery.flush link)) ∧
      ∀ d ∈ (ofSize size capacity c s).deliveries link es, d.batch ≠ [] := by
  obtain ⟨fs, writer_run, same⟩ := run_flushes run
  have tallied := (Writer.Tallied.start size capacity).through writer_run
  have flushes : (Writer.ofSize size (.ofCapacity capacity)).flushes fs =
      ((ofSize size capacity c s).deliveries link es).map (Delivery.flush link) := same
  rw [List.nil_append, flushes] at tallied
  refine ⟨tallied, fun d member => ?_⟩
  obtain ⟨lost, held⟩ := (Writer.Custody.start size capacity).through writer_run
  have handed : d.batch ∈ u.writer.handed := by
    rw [tallied.handed, List.map_map]
    exact List.mem_append_left _ (List.mem_map_of_mem (f := fun d => (d.flush link).batch) member)
  exact List.ne_nil_of_length_pos (held.handed_sized d.batch handed).1

/-- At every point of a run, the counters say how many flushes have ended, how many of them failed,
    and how many items went in, which are those of each batch less those that the store named. When
    a client uploads the batches, the documents counted are those that have landed. -/
theorem counters_account_for_all (size capacity : Nat) :
    (∀ {α : Type} {es : List (Writer.Event α)} {w : Writer α},
      (Writer.ofSize size (.ofCapacity capacity)).run? es = some w →
      let ended := (Writer.ofSize size (.ofCapacity capacity)).flushes es
      ended.length = Writer.flushesEnded es ∧
      w.handed = ended.map (·.batch) ++ w.phase.outgoing?.toList ∧
      w.stats.batches = ended.length ∧
      w.stats.failures = ended.countP (fun f => f.failed.isSome) ∧
      w.stats.items =
        (ended.map fun f => f.batch.length - min f.batch.length (f.failed.getD 0)).sum ∧
      w.stats.items + (ended.map fun f => min f.batch.length (f.failed.getD 0)).sum =
        (ended.map fun f => f.batch.length).sum) ∧
    ∀ {σ : Type} {link : Link (StateM σ)} {c : Client} {s : σ} {es : List (Event σ)}
      {u : Uploader σ}, (ofSize size capacity c s).run? link es = some u →
      let ended := (ofSize size capacity c s).deliveries link es
      u.writer.handed = ended.map (·.batch) ++ u.writer.phase.outgoing?.toList ∧
      (∀ d ∈ ended, (d.failed link).getD 0 ≤ d.batch.length) ∧
      u.writer.stats.batches = ended.length ∧
      u.writer.stats.failures = ended.countP (·.hasFailed link) ∧
      u.writer.stats.items = (ended.map fun d => (d.landed link).ncard).sum := by
  constructor
  · intro α es w run ended
    have tallied := (Writer.Tallied.start size capacity).through run
    rw [List.nil_append] at tallied
    exact ⟨Writer.flushes_count run, tallied.handed, tallied.batches, tallied.failures, tallied.items,
      tallied.items_and_unwritten⟩
  · intro σ link c s es u run ended
    obtain ⟨tallied, some_document⟩ := run_tallied run
    refine ⟨?_, fun d member => (d.landed_count link (some_document d member)).1, ?_, ?_, ?_⟩
    · rw [tallied.handed, List.map_map]
      rfl
    · rw [tallied.batches, List.length_map]
    · rw [tallied.failures, List.countP_map]
      exact List.countP_congr fun d _ => by simp [Delivery.flush, Delivery.failed_isSome]
    · rw [tallied.items, List.map_map]
      exact congrArg List.sum
        (List.map_congr_left fun d member => d.written_count link (some_document d member))

theorem refused_documents_not_counted :
    let ns : List (Writer.Event Nat) :=
      [.accepted 1, .accepted 2, .startCalled, .turned, .turned, .flushEnded (some 5)]
    let es : List (Event Script) := [.writer (.accepted (.ofIdentity 1 "a" 0)),
      .writer (.accepted (.ofIdentity 2 "b" 0)), .writer .startCalled, .writer .turned,
      .writer .turned, .elsewhere false { bulk := [Client.secondRefused] }, .uploaded]
    let start : Uploader Script := ofSize 2 2 Client.loopback {}
    (∃ w, (Writer.ofSize 2 (.ofCapacity 2)).run? ns = some w ∧ w.stats = ⟨1, 0, 1⟩ ∧
      w.stats.items + 2 = 2) ∧
    ∃ u, start.run? Script.link es = some u ∧ u.writer.stats = ⟨1, 1, 1⟩ ∧
      ((start.deliveries Script.link es).map fun d => (d.landed Script.link).ncard).sum = 1 := by
  intro ns es start
  obtain ⟨any_store, client⟩ := counters_account_for_all 2 2
  constructor
  · have run : (Writer.ofSize 2 (.ofCapacity 2)).run? ns = some
        { batchSize := 2, queue := ⟨2, [], 1, true⟩, phase := .waiting, handed := [[1, 2]]
          stats := ⟨1, 0, 1⟩ } := by decide
    obtain ⟨_, _, _, _, _, whole⟩ := any_store run
    exact ⟨_, run, rfl, whole⟩
  · have counted : (start.run? Script.link es).map (·.writer.stats) = some ⟨1, 1, 1⟩ := by
      decide +kernel
    obtain ⟨u, run, stats⟩ := Option.map_eq_some_iff.mp counted
    obtain ⟨_, _, _, _, landed⟩ := client run
    exact ⟨u, run, stats, landed.symm.trans (congrArg WriterStats.items stats)⟩

end Uploader
end AlarmHistory.Store
