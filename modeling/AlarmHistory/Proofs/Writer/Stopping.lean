import AlarmHistory.Proofs.Writer.Sessions

/- What a stop brings about, whenever it comes and however many callers ask for it. The batch that is
   with the store stays there until its flush ends. None follows it but the one that the worker was
   filling, if its look for a stop came before the stop did. A session whose stop call has returned
   stays as it is, but for its queue: that is closed if the worker had it, and if there never was a
   worker, nobody closes it. -/
namespace AlarmHistory.Writer.Session
variable {α : Type} {s u v : Session α} {e : Event α} {es fs : List (Event α)}

def Event.isFlushEnd (e : Event α) : Bool := e.writer?.any Writer.Event.isFlushEnd

theorem finished_snoc (es : List (Event α)) (e : Event α) :
    finished (es ++ [e]) = finished es + if e.isFlushEnd then 1 else 0 := by
  rw [finished, List.filterMap_append]
  cases e with
  | writer f => exact flushesEnded_snoc _ f
  | looked | stopReturned => exact congrArg flushesEnded (List.append_nil _)

/-- A batch that a stop no longer reaches: the worker has looked, and goes on with what it has. -/
def PastReach (s : Session α) (batch : List α) : Prop :=
  s.looked = true ∧ ∃ begun, s.writer.phase = .filling begun ∧ begun <+: batch

/-- What a stopped session does from `s` on: the flush that was under way, if one was, comes to its
    end, and so does that of the batch that goes out late, if one does. -/
structure Winds (s v : Session α) (fs : List (Event α)) (late : List (List α)) : Prop where
  asked : v.writer.stopRequested = true
  handed : v.writer.handed = s.writer.handed ++ late
  one : late = [] ∨ ∃ batch, late = [batch] ∧ s.PastReach batch
  flight : v.writer.phase.inFlight + finished fs = s.writer.phase.inFlight + late.length
  batch : ∀ batch, v.writer.phase = .flushing batch → s.writer.phase = .flushing batch ∨ batch ∈ late
  further : v.looked = true → ∀ batch, v.writer.phase = .filling batch →
    late = [] ∧ s.PastReach batch

namespace Winds
variable {late : List (List α)}

theorem begin (asked : s.writer.stopRequested = true) : Winds s s [] [] where
  asked := asked
  handed := (List.append_nil _).symm
  one := Or.inl rfl
  flight := rfl
  batch _ flushing := Or.inl flushing
  further looked batch filling := ⟨rfl, looked, batch, filling, List.prefix_rfl⟩

theorem stays (winds : Winds s u fs late) (asked : v.writer.stopRequested = true)
    (handed : v.writer.handed = u.writer.handed) (phase : v.writer.phase = u.writer.phase)
    (looked : v.looked = true → u.looked = true) (unended : e.isFlushEnd = false) :
    Winds s v (fs ++ [e]) late where
  asked := asked
  handed := handed.trans winds.handed
  one := winds.one
  flight := by simpa [finished_snoc, unended, phase] using winds.flight
  batch := by simpa [phase] using winds.batch
  further still batch filling := winds.further (looked still) batch (phase ▸ filling)

theorem moves (winds : Winds s u fs late) (asked : v.writer.stopRequested = true)
    (handed : v.writer.handed = u.writer.handed) (before : u.writer.Collecting)
    (landed : v.writer.phase.inFlight = 0) (unended : e.isFlushEnd = false)
    (further : v.looked = true → ∀ batch, v.writer.phase = .filling batch →
      late = [] ∧ s.PastReach batch) :
    Winds s v (fs ++ [e]) late where
  asked := asked
  handed := handed.trans winds.handed
  one := winds.one
  flight := by
    have flight := winds.flight
    rw [(collecting_steady before).1] at flight
    simpa [finished_snoc, unended, landed] using flight
  batch batch flushing := by simp [flushing, Phase.inFlight] at landed
  further := further

theorem gathers (winds : Winds s u fs late) {batch : List α} (collecting : u.writer.Collecting)
    (grows : u.writer.phase.collected <+: batch)
    (still : u.looked = true ∧ stillAt u.writer.phase (.filling batch) = true) :
    late = [] ∧ s.PastReach batch := by
  obtain ⟨looked, there⟩ := still
  rcases collecting with waiting | ⟨begun, filling⟩
  · rw [waiting] at there
    cases there
  · obtain ⟨none, looked_first, first, began, grown⟩ := winds.further looked begun filling
    rw [filling] at grows
    exact ⟨none, looked_first, first, began, grown.trans grows⟩

theorem hands (winds : Winds s u fs late) {batch : List α} {queue : Queue α}
    (filling : u.writer.phase = .filling batch) (looked : u.looked = true)
    (unended : e.isFlushEnd = false) :
    Winds s (u.follow ({ u.writer with queue }.hand batch)) (fs ++ [e]) [batch] := by
  obtain ⟨rfl, reach⟩ := winds.further looked batch filling
  have flight := winds.flight
  constructor
  case asked => exact winds.asked
  case handed =>
    rw [follow_writer, ← List.append_nil s.writer.handed, ← winds.handed]
    rfl
  case one => exact Or.inr ⟨batch, rfl, reach⟩
  case flight =>
    rw [filling] at flight
    rw [follow_writer, finished_snoc, if_neg (by simp [unended])]
    simp only [hand, Phase.inFlight, List.length_nil, List.length_singleton] at flight ⊢
    omega
  case batch =>
    rw [follow_writer]
    rintro other ⟨⟩
    exact Or.inr List.mem_cons_self
  case further =>
    rw [follow_writer]
    rintro _ other ⟨⟩

theorem lands (winds : Winds s u fs late) {batch : List α} (failed : Option Nat)
    (flushing : u.writer.phase = .flushing batch) :
    Winds s (u.follow (u.writer.flushEnded failed)) (fs ++ [.writer (.flushEnded failed)]) late := by
  have asked := winds.asked
  have flight := winds.flight
  have handed := winds.handed
  rw [flushing] at flight
  constructor
  case asked => simpa [follow_writer, flushEnded, flushing] using asked
  case handed => simpa [follow_writer, flushEnded, flushing] using handed
  case one => exact winds.one
  case flight =>
    rw [follow_writer, finished_snoc]
    simp only [flushEnded, flushing, Phase.inFlight] at flight ⊢
    simp only [Event.isFlushEnd, Event.writer?, Option.any_some, Writer.Event.isFlushEnd, if_true]
    omega
  case batch => simp [follow_writer, flushEnded, flushing]
  case further => simp [follow_writer, flushEnded, flushing]

theorem after (winds : Winds s u fs late) (happens : u.after? e = some v) :
    ∃ late, Winds s v (fs ++ [e]) late := by
  have asked := winds.asked
  cases after_happens happens with
  | started =>
    rw [start, if_pos asked]
    exact ⟨late, winds.stays asked rfl rfl id rfl⟩
  | asked => exact ⟨late, winds.stays rfl rfl rfl id rfl⟩
  | returned returns =>
    obtain ⟨_, _, _, rfl⟩ := returned returns
    exact ⟨late, winds.stays asked rfl rfl id rfl⟩
  | looked unasked => exact absurd (asked.symm.trans unasked) (by decide)
  | moved uncalled moves does looked =>
    rename_i f w
    have still : (u.follow w).writer.stopRequested = true := by
      rw [follow_writer, does.stopRequested_eq]
      exact asked
    cases does with
    | stays _ _ unended =>
      exact ⟨late, winds.stays still (by rw [follow_writer]) (by rw [follow_writer])
        (fun held => (follow_looked held).1) unended⟩
    | collects collecting grows unasked unended =>
      refine ⟨late, winds.moves still (by rw [follow_writer]) collecting (by rw [follow_writer]; rfl)
        unended ?_⟩
      intro held batch filling
      rw [follow_writer] at filling
      cases filling
      exact winds.gathers collecting grows (follow_looked held)
    | hands collecting grows unasked unended =>
      obtain ⟨filling, rfl⟩ := unasked.resolve_left (by simp [asked])
      exact ⟨_, winds.hands filling (looked (Or.inr rfl)) unended⟩
    | leaves collecting unended =>
      refine ⟨late, winds.moves still (by rw [follow_writer]; rfl) collecting
        (by rw [follow_writer]; rfl) unended ?_⟩
      rw [follow_writer]
      rintro _ batch ⟨⟩
    | lands flushing ended =>
      subst ended
      exact ⟨late, winds.lands _ flushing⟩

theorem through (winds : Winds s u es late) (run : u.run? fs = some v) :
    ∃ late, Winds s v (es ++ fs) late :=
  run_invariant (P := fun v fs => ∃ late, Winds s v fs late)
    (fun held happens => held.elim fun _ winds => winds.after happens) es ⟨late, winds⟩ run

end Winds

/-- What no event changes any more once a stop was asked for and the worker is not running. -/
structure Rests (u v : Session α) : Prop where
  asked : v.writer.stopRequested = true
  phase : v.writer.phase = u.writer.phase
  handed : v.writer.handed = u.writer.handed
  stats : v.writer.stats = u.writer.stats
  isOpen : v.writer.queue.isOpen = u.writer.queue.isOpen
  shut : u.writer.queue.isOpen = false → v.writer.queue.waiting = u.writer.queue.waiting

namespace Rests
variable {r : Session α}

theorem begin (asked : r.writer.stopRequested = true) : Rests r r :=
  ⟨asked, rfl, rfl, rfl, rfl, fun _ => rfl⟩

theorem same (rests : Rests r u) (writer : v.writer = u.writer) : Rests r v := by
  obtain ⟨asked, phase, handed, stats, isOpen, shut⟩ := rests
  constructor <;> rw [writer] <;> assumption

theorem after (idle : r.writer.phase.isRunning = false) (rests : Rests r u)
    (happens : u.after? e = some v) : Rests r v := by
  obtain ⟨asked, phase, handed, stats, isOpen, shut⟩ := rests
  cases after_happens happens with
  | started =>
    rw [start, if_pos asked]
    exact ⟨asked, phase, handed, stats, isOpen, shut⟩
  | asked => exact ⟨rfl, phase, handed, stats, isOpen, shut⟩
  | returned returns =>
    obtain ⟨_, _, _, rfl⟩ := returned returns
    exact ⟨asked, phase, handed, stats, isOpen, shut⟩
  | looked unasked => exact absurd (asked.symm.trans unasked) (by decide)
  | moved _ _ does _ =>
    rw [← phase] at idle
    cases does with
    | stays isOpen' shut' =>
      constructor <;> rw [follow_writer]
      · exact asked
      · exact phase
      · exact handed
      · exact stats
      · exact isOpen'.trans isOpen
      · intro closed
        exact (shut' (isOpen.trans closed)).trans (shut closed)
    | collects collecting | hands collecting | leaves collecting =>
      simp [collecting_running collecting] at idle
    | lands flushing => simp [flushing, Phase.isRunning] at idle

theorem through (idle : r.writer.phase.isRunning = false) (rests : Rests r u)
    (run : u.run? fs = some v) : Rests r v :=
  run_invariant (P := fun v _ => Rests r v) (after idle) [] rests run

end Rests

theorem Settled.started_first {first : Option Call} (settled : s.Settled first)
    (asked : s.writer.stopRequested = true) : s.launches = 1 ↔ first = some .start := by
  cases first with
  | none => exact absurd (asked.symm.trans settled.2) (by decide)
  | some call =>
    cases call with
    | start => exact iff_of_true settled rfl
    | stop => exact iff_of_false (by simp [settled.1]) (by simp)

theorem offer_closed_iff {w : Writer α} {a : α} :
    w.offer a = .error .closed ↔ w.queue.isOpen = false := by
  rw [← Queue.offer_shut_iff (a := a), Writer.offer]
  cases w.queue.offer a <;> simp [Except.map]

section Run
variable {size capacity : Nat} (run : (Session.ofSize size capacity).run? es = some s)
include run

theorem run_reaches : Reached size capacity s es := (Reached.begin size capacity).through run

theorem returned_idle (returns : s.after? .stopReturned = some u) :
    s.writer.stopRequested = true ∧ s.writer.phase.isRunning = false ∧ u.writer = s.writer := by
  have reached := run_reaches run
  obtain ⟨waiting, _, idle, rfl⟩ := returned returns
  exact ⟨reached.asked waiting, reached.stage.isRunning_eq.symm.trans idle, rfl⟩

theorem returned_rests (returns : s.after? .stopReturned = some u) (later : u.run? fs = some v) :
    Rests s v := by
  obtain ⟨asked, idle, same⟩ := returned_idle run returns
  exact ((Rests.begin asked).same same).through idle later

end Run

/-- What is left in the queue goes, and all offers are refused, exactly if the writer was started
    before it was first stopped. -/
theorem refuses_after_stop_iff {size capacity : Nat} [Nonempty α]
    (run : (Session.ofSize size capacity).run? es = some s) (returns : s.after? .stopReturned = some u)
    (later : u.run? fs = some v) :
    ((∀ a, v.writer.offer a = .error .closed) ∧ v.writer.queue.length = 0) ↔
      firstCall es = some .start := by
  have reached := run_reaches run
  obtain ⟨asked, idle, _⟩ := returned_idle run returns
  have rests := returned_rests run returns later
  rw [← reached.settled.started_first asked]
  cases reached.stage with
  | unlaunched _ _ _ fresh isOpen =>
    refine iff_of_false ?_ (by simp [fresh])
    intro refuses
    have closed := offer_closed_iff.mp (refuses.1 (Classical.arbitrary α))
    exact absurd ((rests.isOpen.trans isOpen).symm.trans closed) (by decide)
  | running phase => exact absurd (phase.symm.trans idle) (by decide)
  | exited _ _ _ once shut empty =>
    refine iff_of_true ⟨?_, ?_⟩ once
    · exact fun a => offer_closed_iff.mpr (rests.isOpen.trans shut)
    · rw [Queue.length, rests.shut shut, empty]
      rfl

theorem item_refused_after_stop :
    let es : List (Event Nat) := [.writer .startCalled, .writer .stopRequested,
      .writer (.accepted 1), .writer .turned]
    let w : Writer Nat :=
      { batchSize := 1, queue := ⟨2, [], 1, false⟩, phase := .exited, stopRequested := true }
    let s : Session Nat := ⟨w, .nobody, .nobody, true, 1, 1, false⟩
    let u : Session Nat := ⟨w, .nobody, .nobody, false, 1, 0, false⟩
    let fs : List (Event Nat) := [.writer .startCalled, .writer .stopRequested, .stopReturned]
    (Session.ofSize 1 2).run? es = some s ∧ s.after? .stopReturned = some u ∧
      u.run? fs = some u ∧ (∀ a, u.writer.offer a = .error .closed) ∧
      u.writer.queue.length = 0 := by
  intro es w s u fs
  have run : (Session.ofSize 1 2).run? es = some s := by decide
  have returns : s.after? .stopReturned = some u := by decide
  have later : u.run? fs = some u := by decide
  exact ⟨run, returns, later, (refuses_after_stop_iff run returns later).mpr (by decide)⟩

theorem unstarted_queue_stays_open :
    ¬∀ (size capacity : Nat) (es fs : List (Event Nat)) (s u v : Session Nat),
      (Session.ofSize size capacity).run? es = some s → s.after? .stopReturned = some u →
      u.run? fs = some v →
      (∀ a, v.writer.offer a = .error .closed) ∧ v.writer.queue.length = 0 := by
  intro refuses
  let es : List (Event Nat) := [.writer (.accepted 1), .writer .stopRequested]
  let w : Writer Nat := { batchSize := 1, queue := ⟨2, [1], 1, true⟩, stopRequested := true }
  let s : Session Nat := ⟨w, .writer, .nobody, false, 0, 1, false⟩
  let u : Session Nat := ⟨w, .writer, .nobody, false, 0, 0, false⟩
  have run : (Session.ofSize 1 2).run? es = some s := by decide
  have returns : s.after? .stopReturned = some u := by decide
  obtain ⟨closed, empty⟩ := refuses 1 2 es [] s u u run returns rfl
  exact absurd empty (by decide)

end AlarmHistory.Writer.Session
