import AlarmHistory.Proofs.Writer.Schedule

/- How a worker fills a batch, told item by item. It draws what is waiting into the room that there
   is; unless the batch is full or its time is over, it then polls for one more item, and draws again
   after that. Producers, callers and the store come in between as they like. -/
namespace AlarmHistory.Writer
variable {α : Type}

/-- Where the worker is with the batch that it fills. -/
inductive Filling where
  | drawing (room : Nat)
  | drawn
  | polling
  | done
  deriving DecidableEq, Repr

structure Stepwise (α : Type) where
  writer : Writer α
  filling : Filling := .drawn
  deriving DecidableEq, Repr

/-- What others do, and the steps of the worker. A poll may end without an item at any time. -/
inductive Happening (α : Type) where
  | aside (e : Event α)
  | began
  | drew
  | foundEmpty
  | decided (timeIsOver : Bool)
  | polled
  | pollEnded
  | handedOver
  | left
  deriving DecidableEq, Repr

namespace Happening

def collects : Happening α → Bool
  | began | drew | polled => true
  | _ => false

def isWork : Happening α → Bool
  | aside e => e.isFlushEnd
  | _ => true

def isQuiet : Happening α → Bool
  | aside (.accepted _) | aside .stopRequested => false
  | _ => true

end Happening

def holding (w : Writer α) (batch rest : List α) : Writer α :=
  { w with phase := .filling batch, queue := { w.queue with waiting := rest } }

def add? (w : Writer α) (batch : List α) : Option (Writer α) :=
  match w.queue.waiting with
  | a :: rest => some (w.holding (batch ++ [a]) rest)
  | [] => none

def mayLeave (w : Writer α) : Bool :=
  w.stopRequested ||
    (w.phase matches .waiting && w.queue.waiting.isEmpty && w.queue.producers == 0)

theorem may_leave_cases {w : Writer α} (may : w.mayLeave = true) :
    w.stopRequested = true ∨
      w.phase = .waiting ∧ w.queue.waiting = [] ∧ w.queue.producers = 0 := by
  simp only [mayLeave, Bool.or_eq_true, Bool.and_eq_true, List.isEmpty_iff, beq_iff_eq] at may
  refine may.imp_right fun ⟨⟨waiting, empty⟩, gone⟩ => ⟨?_, empty, gone⟩
  cases phase : w.phase <;> simp_all

namespace Stepwise

def start (size capacity : Nat) : Stepwise α := { writer := .ofSize size (.ofCapacity capacity) }

def begin? (w : Writer α) : Happening α → Option (Stepwise α)
  | .began => (w.add? []).map fun v => ⟨v, .drawing (w.batchSize - 1)⟩
  | .left => if w.mayLeave then some ⟨w.exit, .drawn⟩ else none
  | _ => none

def fill? (w : Writer α) (batch : List α) : Filling → Happening α → Option (Stepwise α)
  | .drawing (room + 1), .drew => (w.add? batch).map fun v => ⟨v, .drawing room⟩
  | .drawing (_ + 1), .foundEmpty => if w.queue.waiting.isEmpty then some ⟨w, .drawn⟩ else none
  | .drawing 0, .decided timeIsOver | .drawn, .decided timeIsOver =>
    some ⟨w, if batch.length < w.batchSize ∧ timeIsOver = false then .polling else .done⟩
  | .polling, .polled =>
    (w.add? batch).map fun v => ⟨v, .drawing (w.batchSize - (batch.length + 1))⟩
  | .polling, .pollEnded => some ⟨w, .done⟩
  | .done, .handedOver => some ⟨w.hand batch, .drawn⟩
  | _, .left => if w.mayLeave then some ⟨w.exit, .drawn⟩ else none
  | _, _ => none

def step? (s : Stepwise α) : Happening α → Option (Stepwise α)
  | .aside e =>
    if e.isOthers then (s.writer.after? e).map fun w => { s with writer := w } else none
  | h =>
    match s.writer.phase with
    | .waiting => begin? s.writer h
    | .filling batch => fill? s.writer batch s.filling h
    | _ => none

def run? (s : Stepwise α) (hs : List (Happening α)) : Option (Stepwise α) := hs.foldlM step? s

end Stepwise

inductive OthersDo (w : Writer α) (e : Event α) : Writer α → Prop
  | same (unended : e.isFlushEnd = false) : OthersDo w e w
  | accepted {a : α} (offered : e = .accepted a) :
      OthersDo w e { w with queue := { w.queue with waiting := w.queue.waiting ++ [a] } }
  | producers (n : Nat) (unended : e.isFlushEnd = false) :
      OthersDo w e { w with queue := { w.queue with producers := n } }
  | started (unlaunched : w.phase = .unlaunched) (called : e = .startCalled) :
      OthersDo w e { w with phase := .waiting }
  | asked (called : e = .stopRequested) : OthersDo w e w.requestStop
  | landed {batch : List α} {failed : Option Nat} (flushing : w.phase = .flushing batch)
      (ended : e = .flushEnded failed) : OthersDo w e (w.flushEnded failed)

section Others
variable {w v : Writer α} {e : Event α}

theorem others_do (others : e.isOthers = true) (happens : w.after? e = some v) :
    w.OthersDo e v := by
  cases after_effect happens with
  | accepted offered _ => exact .accepted offered
  | nothing _ unended => exact .same unended
  | producers n counted => exact .producers n (by rcases counted with rfl | rfl <;> rfl)
  | launched called unlaunched => exact .started unlaunched called
  | asked called => exact .asked called
  | landed flushing ended => exact .landed flushing ended
  | leaves work _ | collects work _ _ | hands work _ _ _ =>
    exact absurd (others.symm.trans work) (by decide)

theorem OthersDo.keeps (does : w.OthersDo e v) : v.batchSize = w.batchSize ∧
    ∀ batch, v.phase = .filling batch → w.phase = .filling batch := by
  cases does with
  | landed flushing _ => simp [flushEnded, flushing]
  | started _ _ => exact ⟨rfl, by rintro batch ⟨⟩⟩
  | _ => exact ⟨rfl, fun _ filling => filling⟩

theorem OthersDo.handed (does : w.OthersDo e v) : v.handed = w.handed := by
  cases does with
  | landed flushing _ => simp [flushEnded, flushing]
  | _ => rfl

end Others

namespace Stepwise

/-- All that can happen in one step. -/
inductive Step (s : Stepwise α) : Happening α → Stepwise α → Prop
  | aside {e : Event α} {w : Writer α} (does : s.writer.OthersDo e w) :
      Step s (.aside e) { s with writer := w }
  | began {a : α} {rest : List α} (waiting : s.writer.phase = .waiting)
      (items : s.writer.queue.waiting = a :: rest) :
      Step s .began ⟨s.writer.holding [a] rest, .drawing (s.writer.batchSize - 1)⟩
  | drew {batch rest : List α} {a : α} {room : Nat} (filling : s.writer.phase = .filling batch)
      (drawing : s.filling = .drawing (room + 1)) (items : s.writer.queue.waiting = a :: rest) :
      Step s .drew ⟨s.writer.holding (batch ++ [a]) rest, .drawing room⟩
  | foundEmpty {batch : List α} {room : Nat} (filling : s.writer.phase = .filling batch)
      (drawing : s.filling = .drawing (room + 1)) (empty : s.writer.queue.waiting = []) :
      Step s .foundEmpty ⟨s.writer, .drawn⟩
  | goesOn {batch : List α} (filling : s.writer.phase = .filling batch)
      (drawn : s.filling = .drawing 0 ∨ s.filling = .drawn) (room : batch.length < s.writer.batchSize) :
      Step s (.decided false) ⟨s.writer, .polling⟩
  | isDone {batch : List α} {timeIsOver : Bool} (filling : s.writer.phase = .filling batch)
      (drawn : s.filling = .drawing 0 ∨ s.filling = .drawn) :
      Step s (.decided timeIsOver) ⟨s.writer, .done⟩
  | polled {batch rest : List α} {a : α} (filling : s.writer.phase = .filling batch)
      (polling : s.filling = .polling) (items : s.writer.queue.waiting = a :: rest) :
      Step s .polled ⟨s.writer.holding (batch ++ [a]) rest,
        .drawing (s.writer.batchSize - (batch.length + 1))⟩
  | pollEnded {batch : List α} (filling : s.writer.phase = .filling batch)
      (polling : s.filling = .polling) : Step s .pollEnded ⟨s.writer, .done⟩
  | handedOver {batch : List α} (filling : s.writer.phase = .filling batch)
      (done : s.filling = .done) : Step s .handedOver ⟨s.writer.hand batch, .drawn⟩
  | left (collecting : s.writer.Collecting) (may : s.writer.mayLeave = true) :
      Step s .left ⟨s.writer.exit, .drawn⟩

section Step
variable {s t : Stepwise α} {h : Happening α}

theorem add_some {w v : Writer α} {batch : List α} (added : w.add? batch = some v) :
    ∃ a rest, w.queue.waiting = a :: rest ∧ v = w.holding (batch ++ [a]) rest := by
  unfold add? at added
  split at added
  · rename_i a rest items
    cases added
    exact ⟨a, rest, items, rfl⟩
  · cases added

theorem begin_cases {w : Writer α} {f : Filling} (waiting : w.phase = .waiting)
    (happens : begin? w h = some t) : Step ⟨w, f⟩ h t := by
  unfold begin? at happens
  split at happens
  · obtain ⟨v, added, rfl⟩ := Option.map_eq_some_iff.mp happens
    obtain ⟨a, rest, items, rfl⟩ := add_some added
    exact .began waiting items
  · split at happens
    · rename_i may
      cases happens
      exact .left (Or.inl waiting) may
    · cases happens
  · cases happens

theorem fill_cases {w : Writer α} {batch : List α} {f : Filling} (filling : w.phase = .filling batch)
    (happens : fill? w batch f h = some t) : Step ⟨w, f⟩ h t := by
  have decides : ∀ {timeIsOver : Bool}, f = .drawing 0 ∨ f = .drawn →
      some ⟨w, if batch.length < w.batchSize ∧ timeIsOver = false then .polling else .done⟩ =
        some t → Step ⟨w, f⟩ (.decided timeIsOver) t := by
    intro timeIsOver drawn happens
    split at happens
    · rename_i on
      obtain ⟨room, rfl⟩ := on
      cases happens
      exact .goesOn filling drawn room
    · cases happens
      exact .isDone filling drawn
  unfold fill? at happens
  split at happens
  · obtain ⟨v, added, rfl⟩ := Option.map_eq_some_iff.mp happens
    obtain ⟨a, rest, items, rfl⟩ := add_some added
    exact .drew filling rfl items
  · split at happens
    · rename_i empty
      cases happens
      exact .foundEmpty filling rfl (List.isEmpty_iff.mp empty)
    · cases happens
  · exact decides (Or.inl rfl) happens
  · exact decides (Or.inr rfl) happens
  · obtain ⟨v, added, rfl⟩ := Option.map_eq_some_iff.mp happens
    obtain ⟨a, rest, items, rfl⟩ := add_some added
    exact .polled filling rfl items
  · cases happens
    exact .pollEnded filling rfl
  · cases happens
    exact .handedOver filling rfl
  · split at happens
    · rename_i may
      cases happens
      exact .left (Or.inr ⟨batch, filling⟩) may
    · cases happens
  · cases happens

theorem step_cases (happens : s.step? h = some t) : s.Step h t := by
  obtain ⟨w, f⟩ := s
  unfold step? at happens
  split at happens
  · split at happens
    · rename_i others
      obtain ⟨v, after, rfl⟩ := Option.map_eq_some_iff.mp happens
      exact .aside (others_do others after)
    · cases happens
  · split at happens
    · rename_i waiting
      exact begin_cases waiting happens
    · rename_i batch filling
      exact fill_cases filling happens
    · cases happens

end Step

theorem run_snoc {s : Stepwise α} {hs : List (Happening α)} {h : Happening α} :
    s.run? (hs ++ [h]) = (s.run? hs).bind (·.step? h) := by
  simp [run?, List.foldlM_append]

theorem run_split {s t : Stepwise α} {before after : List (Happening α)} {h : Happening α}
    (run : s.run? (before ++ h :: after) = some t) :
    ∃ u v, s.run? before = some u ∧ u.step? h = some v ∧ v.run? after = some t := by
  obtain ⟨u, first, rest⟩ := run_append_iff.mp run
  obtain ⟨v, step, rest⟩ := run_cons_iff.mp rest
  exact ⟨u, v, first, step, rest⟩

/-- Since the batch took its last item, the worker has looked into the queue and found it empty. -/
def FoundEmpty (s : Stepwise α) (hs : List (Happening α)) (batch : List α) : Prop :=
  ∃ earlier later u, hs = earlier ++ .foundEmpty :: later ∧ s.run? earlier = some u ∧
    u.writer.phase = .filling batch ∧ u.writer.queue.waiting = [] ∧ ∀ h ∈ later, h.collects = false

theorem FoundEmpty.snoc {s : Stepwise α} {hs : List (Happening α)} {batch : List α}
    (found : FoundEmpty s hs batch) {h : Happening α} (idle : h.collects = false) :
    FoundEmpty s (hs ++ [h]) batch := by
  obtain ⟨earlier, later, u, rfl, run, filling, empty, quiet⟩ := found
  refine ⟨earlier, later ++ [h], u, by simp, run, filling, empty, ?_⟩
  simpa [or_imp, forall_and, idle] using quiet

/-- What the worker knows of its batch: while it draws, how much room is left, and after that, unless
    the batch is full, that the queue was empty. -/
structure Watched (size capacity : Nat) (s : Stepwise α) (hs : List (Happening α)) : Prop where
  run : (start size capacity).run? hs = some s
  sized : s.writer.batchSize = max size 1
  room : ∀ batch room, s.writer.phase = .filling batch → s.filling = .drawing room →
    batch.length + room = s.writer.batchSize
  more : ∀ batch, s.writer.phase = .filling batch → s.filling = .polling →
    batch.length < s.writer.batchSize
  found : ∀ batch, s.writer.phase = .filling batch → batch.length < s.writer.batchSize →
    (∃ room, s.filling = .drawing room) ∨ FoundEmpty (start size capacity) hs batch

namespace Watched
variable {size capacity : Nat} {s t : Stepwise α} {hs : List (Happening α)} {h : Happening α}

theorem begin (size capacity : Nat) : Watched size capacity (start size capacity : Stepwise α) [] where
  run := rfl
  sized := rfl
  room := by simp [start, ofSize]
  more := by simp [start, ofSize]
  found := by simp [start, ofSize]

theorem looked (watched : Watched size capacity s hs) {batch : List α}
    (filling : s.writer.phase = .filling batch)
    (still : ∀ room, s.filling = .drawing room → room = 0) (small : batch.length < s.writer.batchSize) :
    FoundEmpty (start size capacity) hs batch := by
  rcases watched.found batch filling small with ⟨room, drawing⟩ | found
  · have full := watched.room batch room filling drawing
    have none := still room drawing
    omega
  · exact found

theorem idles (watched : Watched size capacity s hs) (run : (start size capacity).run? (hs ++ [h]) = some t)
    (idle : h.collects = false) (same : t.writer = s.writer)
    (undrawn : ∀ room, t.filling ≠ .drawing room)
    (still : ∀ room, s.filling = .drawing room → room = 0)
    (more : ∀ batch, s.writer.phase = .filling batch → t.filling = .polling →
      batch.length < s.writer.batchSize) : Watched size capacity t (hs ++ [h]) where
  run := run
  sized := same ▸ watched.sized
  room batch room _ drawing := absurd drawing (undrawn room)
  more := same ▸ more
  found batch filling small := by
    rw [same] at filling small
    exact Or.inr ((watched.looked filling still small).snoc idle)

theorem no_batch (watched : Watched size capacity s hs)
    (run : (start size capacity).run? (hs ++ [h]) = some t)
    (sized : t.writer.batchSize = s.writer.batchSize) (none : ∀ batch, t.writer.phase ≠ .filling batch) :
    Watched size capacity t (hs ++ [h]) where
  run := run
  sized := sized.trans watched.sized
  room batch _ filling := absurd filling (none batch)
  more batch filling := absurd filling (none batch)
  found batch filling := absurd filling (none batch)

theorem collects (watched : Watched size capacity s hs) {batch rest : List α} {room : Nat}
    (run : (start size capacity).run? (hs ++ [h]) = some ⟨s.writer.holding batch rest, .drawing room⟩)
    (fits : batch.length + room = s.writer.batchSize) :
    Watched size capacity ⟨s.writer.holding batch rest, .drawing room⟩ (hs ++ [h]) where
  run := run
  sized := watched.sized
  room := by
    rintro other left ⟨⟩ ⟨⟩
    exact fits
  more := by
    rintro other _ ⟨⟩
  found _ _ _ := Or.inl ⟨room, rfl⟩

theorem after (watched : Watched size capacity s hs) (happens : s.step? h = some t) :
    Watched size capacity t (hs ++ [h]) := by
  have run : (start size capacity).run? (hs ++ [h]) = some t := by
    rw [run_snoc, watched.run]
    exact happens
  have sized := watched.sized
  cases step_cases happens with
  | aside does =>
    obtain ⟨same, kept⟩ := does.keeps
    constructor
    case run => exact run
    case sized => exact same.trans sized
    case room =>
      intro batch room filling drawing
      rw [same]
      exact watched.room batch room (kept batch filling) drawing
    case more =>
      intro batch filling polling
      rw [same]
      exact watched.more batch (kept batch filling) polling
    case found =>
      intro batch filling small
      rw [same] at small
      exact (watched.found batch (kept batch filling) small).imp_right fun found => found.snoc rfl
  | began waiting items =>
    refine watched.collects run ?_
    rw [List.length_singleton]
    omega
  | drew filling drawing items =>
    have room := watched.room _ _ filling drawing
    refine watched.collects run ?_
    rw [List.length_append, List.length_singleton]
    omega
  | foundEmpty filling drawing empty =>
    constructor
    case run => exact run
    case sized => exact sized
    case room => rintro batch room _ ⟨⟩
    case more => rintro batch _ ⟨⟩
    case found =>
      intro batch filling _
      exact Or.inr ⟨hs, [], s, rfl, watched.run, filling, empty, by simp⟩
  | goesOn filling drawn room =>
    refine watched.idles run rfl rfl nofun ?_ ?_
    · rcases drawn with drawn | drawn <;> simp [drawn]
    · intro batch filling' _
      rw [filling, Phase.filling.injEq] at filling'
      exact filling' ▸ room
  | isDone filling drawn =>
    refine watched.idles run rfl rfl nofun ?_ nofun
    rcases drawn with drawn | drawn <;> simp [drawn]
  | polled filling polling items =>
    have more := watched.more _ filling polling
    refine watched.collects run ?_
    rw [List.length_append, List.length_singleton]
    omega
  | pollEnded filling polling => exact watched.idles run rfl rfl nofun (by simp [polling]) nofun
  | handedOver filling done => exact watched.no_batch run rfl nofun
  | left collecting may => exact watched.no_batch run rfl nofun

theorem through (watched : Watched size capacity s hs) {more : List (Happening α)}
    (run : s.run? more = some t) : Watched size capacity t (hs ++ more) :=
  run_invariant (P := Watched size capacity) after hs watched run

theorem hands (watched : Watched size capacity s hs) (happens : s.step? h = some t) :
    t.writer.handed = s.writer.handed ∨ ∃ batch, t.writer.handed = s.writer.handed ++ [batch] ∧
      (batch.length < max size 1 → FoundEmpty (start size capacity) hs batch) := by
  cases step_cases happens with
  | aside does => exact Or.inl does.handed
  | handedOver filling done =>
    refine Or.inr ⟨_, rfl, fun small => watched.looked filling (by simp [done]) ?_⟩
    rw [watched.sized]
    exact small
  | _ => exact Or.inl rfl

end Watched
end Stepwise
end AlarmHistory.Writer
