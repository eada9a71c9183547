import AlarmHistory.Proofs.Writer.Itemwise

/- A queue that is worked off with nothing coming in. Its items go out in consecutive chunks of the
   batch size, the remainder last, whatever the time for filling and whichever flushes fail; and the
   worker comes to rest, on a timeline as in any other run of its steps. -/
namespace AlarmHistory.Writer
variable {α : Type}

def chunk (size : Nat) (items : List α) (i : Nat) : List α := (items.drop (i * size)).take size

def firstChunks (size : Nat) (items : List α) (n : Nat) : List (List α) :=
  (List.range n).map (chunk size items)

/-- How many batches so many items need, rounded up. -/
def batchesFor (size count : Nat) : Nat := (count + size - 1) / size

def chunks (size : Nat) (items : List α) : List (List α) :=
  firstChunks size items (batchesFor size items.length)

theorem firstChunks_succ (size : Nat) (items : List α) (n : Nat) :
    firstChunks size items (n + 1) = firstChunks size items n ++ [chunk size items n] := by
  simp [firstChunks, List.range_succ]

theorem batchesFor_eq {size count n : Nat} (enough : count ≤ n * size)
    (needed : n * size < count + size) : batchesFor size count = n := by
  apply Nat.div_eq_of_lt_le
  · omega
  · rw [Nat.succ_mul]
    omega

theorem firstChunks_chunks {size n : Nat} {items : List α} (some_room : 1 ≤ size)
    (needed : n * size < items.length + size) : firstChunks size items n <+: chunks size items := by
  have few : n ≤ batchesFor size items.length := by
    rw [batchesFor, Nat.le_div_iff_mul_le some_room]
    omega
  obtain ⟨more, all⟩ := Nat.le.dest few
  rw [chunks, ← all]
  simp only [firstChunks, List.range_add, List.map_append]
  exact List.prefix_append _ _

/-- How many steps at most are left with a batch that gets no more items: those that hand it over, the
    end of its flush, and one to leave. -/
def Filling.weight : Filling → Nat
  | drawing _ => 6
  | drawn => 5
  | polling => 4
  | done => 3

theorem Filling.weight_pos (f : Filling) : 0 < f.weight := by
  cases f <;> simp [weight]

namespace Stepwise

/-- So many chunks have gone out since a certain state of the writer, and the batch that is filling
    is the beginning of the next one. -/
structure InChunks (size : Nat) (items : List α) (before : Writer α) (s : Stepwise α) (n : Nat) :
    Prop where
  unasked : s.writer.stopRequested = false
  launched : s.writer.phase ≠ .unlaunched
  handed : s.writer.handed = before.handed ++ firstChunks size items n
  flushed : s.writer.stats.batches + s.writer.phase.inFlight = before.stats.batches + n
  left : s.writer.phase.collected ++ s.writer.queue.waiting = items.drop (n * size)
  needed : n * size < items.length + size
  filling : ∀ batch, s.writer.phase = .filling batch → batch ≠ [] ∧ batch.length ≤ size ∧
    ((∃ room, s.filling = .drawing room) ∨ batch.length = size ∨ s.writer.queue.waiting = [])
  gone : s.writer.phase = .exited → s.writer.queue.waiting = []

/-- A batch that takes no more for now is full, or the queue is empty. -/
def Settled (size : Nat) (s : Stepwise α) : Prop :=
  ∀ batch, s.writer.phase = .filling batch → batch.length = size ∨ s.writer.queue.waiting = []

namespace InChunks
variable {size : Nat} {items : List α} {before : Writer α} {s t : Stepwise α} {n : Nat}
  {h : Happening α}

theorem begin {w : Writer α} {f : Filling} (waiting : w.phase = .waiting)
    (unasked : w.stopRequested = false) (some_room : 1 ≤ size) :
    InChunks size w.queue.waiting w ⟨w, f⟩ 0 where
  unasked := unasked
  launched := by simp [waiting]
  handed := by simp [firstChunks]
  flushed := by simp [waiting, Phase.inFlight]
  left := by simp [waiting, Phase.collected]
  needed := by omega
  filling := by simp [waiting]
  gone := by simp [waiting]

theorem collects (held : InChunks size items before s n) {batch rest : List α} {a : α} {room : Nat}
    (collecting : s.writer.Collecting) (collected : s.writer.phase.collected = batch)
    (next : s.writer.queue.waiting = a :: rest) (fits : (batch ++ [a]).length ≤ size) :
    InChunks size items before ⟨s.writer.holding (batch ++ [a]) rest, .drawing room⟩ n where
  unasked := held.unasked
  launched := nofun
  handed := held.handed
  flushed := by
    have flushed := held.flushed
    rw [(collecting_steady collecting).1] at flushed
    exact flushed
  left := by
    have left := held.left
    rw [collected, next] at left
    simpa [holding, Phase.collected] using left
  needed := held.needed
  filling := by
    rintro other ⟨⟩
    exact ⟨by simp, fits, Or.inl ⟨room, rfl⟩⟩
  gone := nofun

theorem settled (held : InChunks size items before s n) (sized : s.writer.batchSize = size)
    (room : ∀ batch room, s.writer.phase = .filling batch → s.filling = .drawing room →
      batch.length + room = s.writer.batchSize)
    (still : ∀ room, s.filling = .drawing room → room = 0) : Settled size s := by
  intro batch filling
  rcases (held.filling batch filling).2.2 with ⟨left, drawing⟩ | settled
  · have full := room batch left filling drawing
    have none := still left drawing
    exact Or.inl (by omega)
  · exact settled

theorem idles (held : InChunks size items before s n) {f : Filling} (settled : Settled size s) :
    InChunks size items before ⟨s.writer, f⟩ n where
  unasked := held.unasked
  launched := held.launched
  handed := held.handed
  flushed := held.flushed
  left := held.left
  needed := held.needed
  filling batch filling :=
    ⟨(held.filling batch filling).1, (held.filling batch filling).2.1, Or.inr (settled batch filling)⟩
  gone := held.gone

theorem hands (held : InChunks size items before s n) {batch : List α} {f : Filling}
    (filling : s.writer.phase = .filling batch) (settled : Settled size s) :
    InChunks size items before ⟨s.writer.hand batch, f⟩ (n + 1) := by
  obtain ⟨some_item, fits, _⟩ := held.filling batch filling
  replace settled := settled batch filling
  have left := held.left
  rw [filling, Phase.collected] at left
  have next : (items.drop (n * size)).take size = batch := by
    rw [← left]
    rcases settled with full | empty
    · rw [← full, List.take_left]
    · rw [empty, List.append_nil, List.take_of_length_le fits]
  have rest : items.drop ((n + 1) * size) = s.writer.queue.waiting := by
    rw [Nat.succ_mul, ← List.drop_drop, ← left]
    rcases settled with full | empty
    · rw [← full, List.drop_left]
    · rw [empty, List.append_nil, List.drop_eq_nil_of_le fits]
  have more : n * size < items.length := by
    have length := congrArg List.length left
    have positive := List.length_pos_iff.mpr some_item
    rw [List.length_append, List.length_drop] at length
    omega
  have flushed := held.flushed
  rw [filling] at flushed
  constructor
  case unasked => exact held.unasked
  case launched => rintro ⟨⟩
  case handed => rw [firstChunks_succ, ← List.append_assoc, ← held.handed, chunk, next]; rfl
  case flushed =>
    simp only [hand, Phase.inFlight] at flushed ⊢
    omega
  case left => exact rest.symm
  case needed =>
    rw [Nat.succ_mul]
    omega
  case filling => rintro other ⟨⟩
  case gone => rintro ⟨⟩

theorem aside (held : InChunks size items before s n) {e : Event α} {v : Writer α}
    (does : s.writer.OthersDo e v) (quiet : (Happening.aside e).isQuiet = true) :
    InChunks size items before { s with writer := v } n := by
  cases does with
  | same _ => exact held
  | producers _ _ => exact ⟨held.unasked, held.launched, held.handed, held.flushed, held.left,
      held.needed, held.filling, held.gone⟩
  | accepted offered | asked offered =>
    subst offered
    cases quiet
  | started unlaunched _ => exact absurd unlaunched held.launched
  | landed flushing _ =>
    have flushed := held.flushed
    have left := held.left
    rw [flushing] at flushed left
    simp only [flushEnded, flushing]
    constructor
    case unasked => exact held.unasked
    case launched => rintro ⟨⟩
    case handed => exact held.handed
    case flushed => exact flushed
    case left => exact left
    case needed => exact held.needed
    case filling => rintro other ⟨⟩
    case gone => rintro ⟨⟩

theorem leaves (held : InChunks size items before s n) {f : Filling}
    (may : s.writer.mayLeave = true) : InChunks size items before ⟨s.writer.exit, f⟩ n := by
  obtain ⟨waiting, empty, _⟩ := (may_leave_cases may).resolve_left (by simp [held.unasked])
  have flushed := held.flushed
  have left := held.left
  rw [waiting] at flushed left
  rw [empty] at left
  exact ⟨held.unasked, nofun, held.handed, flushed, left, held.needed, nofun, fun _ => rfl⟩

theorem after {capacity limit : Nat} {hs : List (Happening α)}
    (held : InChunks (max limit 1) items before s n) (watched : Watched limit capacity s hs)
    (happens : s.step? h = some t) (quiet : h.isQuiet = true) :
    ∃ m, InChunks (max limit 1) items before t m := by
  have sized := watched.sized
  have settled := held.settled sized watched.room
  cases step_cases happens with
  | aside does => exact ⟨n, held.aside does quiet⟩
  | began waiting items =>
    have none : s.writer.phase.collected = [] := by rw [waiting]; rfl
    exact ⟨n, held.collects (Or.inl waiting) none items (Nat.le_max_right limit 1)⟩
  | drew filling drawing items =>
    have room := watched.room _ _ filling drawing
    have collected := congrArg Phase.collected filling
    refine ⟨n, held.collects (Or.inr ⟨_, filling⟩) collected items ?_⟩
    rw [List.length_append, List.length_singleton]
    omega
  | foundEmpty filling drawing empty => exact ⟨n, held.idles fun _ _ => Or.inr empty⟩
  | goesOn filling drawn room =>
    refine ⟨n, held.idles (settled ?_)⟩
    rcases drawn with drawn | drawn <;> simp [drawn]
  | isDone filling drawn =>
    refine ⟨n, held.idles (settled ?_)⟩
    rcases drawn with drawn | drawn <;> simp [drawn]
  | polled filling polling items =>
    have more := watched.more _ filling polling
    have collected := congrArg Phase.collected filling
    refine ⟨n, held.collects (Or.inr ⟨_, filling⟩) collected items ?_⟩
    rw [List.length_append, List.length_singleton]
    omega
  | pollEnded filling polling => exact ⟨n, held.idles (settled (by simp [polling]))⟩
  | handedOver filling done => exact ⟨n + 1, held.hands filling (settled (by simp [done]))⟩
  | left collecting may => exact ⟨n, held.leaves may⟩

theorem all_out (held : InChunks size items before s n)
    (rest : s.writer.phase = .waiting ∧ s.writer.queue.waiting = [] ∨ s.writer.phase = .exited) :
    s.writer.handed = before.handed ++ chunks size items ∧
      s.writer.stats.batches = before.stats.batches + batchesFor size items.length := by
  have empty : s.writer.queue.waiting = [] := rest.elim (·.2) held.gone
  have idle : s.writer.phase.collected = [] ∧ s.writer.phase.inFlight = 0 := by
    rcases rest with ⟨waiting, _⟩ | exited
    · simp [waiting, Phase.collected, Phase.inFlight]
    · simp [exited, Phase.collected, Phase.inFlight]
  have left := held.left
  rw [idle.1, empty] at left
  have count := batchesFor_eq (List.drop_eq_nil_iff.mp left.symm) held.needed
  have flushed := held.flushed
  rw [idle.2] at flushed
  rw [chunks, count]
  exact ⟨held.handed, flushed⟩

end InChunks

def weight (s : Stepwise α) : Nat :=
  6 * s.writer.queue.length +
    match s.writer.phase with
    | .unlaunched | .exited => 0
    | .waiting => 1
    | .flushing _ => 2
    | .filling _ => s.filling.weight

section Weight
variable {s t : Stepwise α} {h : Happening α}

theorem others_weight {e : Event α} {v : Writer α} (does : s.writer.OthersDo e v)
    (launched : s.writer.phase ≠ .unlaunched) (quiet : (Happening.aside e).isQuiet = true) :
    weight { s with writer := v } + (if e.isFlushEnd then 1 else 0) ≤ s.weight := by
  cases does with
  | same unended => simp [unended]
  | producers _ unended => simp [unended, weight, Queue.length]
  | accepted offered => simp [offered, Happening.isQuiet] at quiet
  | asked called => simp [called, Happening.isQuiet] at quiet
  | started unlaunched _ => exact absurd unlaunched launched
  | landed flushing ended => simp [ended, flushEnded, flushing, weight, Event.isFlushEnd]

theorem weight_waiting (waiting : s.writer.phase = .waiting) :
    s.weight = 6 * s.writer.queue.waiting.length + 1 := by
  rw [weight, waiting, Queue.length]

theorem weight_filling {batch : List α} (filling : s.writer.phase = .filling batch) :
    s.weight = 6 * s.writer.queue.waiting.length + s.filling.weight := by
  rw [weight, filling, Queue.length]

theorem weight_holding (w : Writer α) (batch rest : List α) (f : Filling) :
    weight ⟨w.holding batch rest, f⟩ = 6 * rest.length + f.weight := rfl

theorem further_lighter {batch : List α} {f : Filling} (filling : s.writer.phase = .filling batch)
    (further : f.weight + 1 ≤ s.filling.weight) : weight ⟨s.writer, f⟩ + 1 ≤ s.weight := by
  have there : weight ⟨s.writer, f⟩ = 6 * s.writer.queue.waiting.length + f.weight :=
    weight_filling filling
  rw [there, weight_filling filling]
  omega

theorem step_lighter (happens : s.step? h = some t) (launched : s.writer.phase ≠ .unlaunched)
    (quiet : h.isQuiet = true) : t.weight + (if h.isWork then 1 else 0) ≤ s.weight := by
  cases step_cases happens with
  | aside does => exact others_weight does launched quiet
  | began waiting items =>
    rw [weight_holding, weight_waiting waiting, items, List.length_cons]
    change _ + 6 + 1 ≤ _
    omega
  | drew filling drawing items =>
    rw [weight_holding, weight_filling filling, drawing, items, List.length_cons]
    change _ + 6 + 1 ≤ _ + 6
    omega
  | foundEmpty filling drawing _ => exact further_lighter filling (by simp [drawing, Filling.weight])
  | goesOn filling drawn _ =>
    refine further_lighter filling ?_
    rcases drawn with drawn | drawn <;> simp [drawn, Filling.weight]
  | isDone filling drawn =>
    refine further_lighter filling ?_
    rcases drawn with drawn | drawn <;> simp [drawn, Filling.weight]
  | polled filling polling items =>
    rw [weight_holding, weight_filling filling, polling, items, List.length_cons]
    change _ + 6 + 1 ≤ _ + 4
    omega
  | pollEnded filling polling =>
    exact further_lighter filling (by simp [polling, Filling.weight])
  | handedOver filling done =>
    rw [weight_filling filling, done]
    exact Nat.le_refl _
  | left collecting _ =>
    change 0 + 1 ≤ s.weight
    rcases collecting with waiting | ⟨batch, filling⟩
    · rw [weight_waiting waiting]
      omega
    · have some_left := s.filling.weight_pos
      rw [weight_filling filling]
      omega

end Weight

theorem InChunks.through {limit capacity : Nat} {items : List α} {before : Writer α}
    {s t : Stepwise α} {es hs : List (Happening α)} {n : Nat}
    (held : InChunks (max limit 1) items before s n) (watched : Watched limit capacity s es)
    (quiet : ∀ h ∈ hs, h.isQuiet = true) (run : s.run? hs = some t) :
    (∃ m, InChunks (max limit 1) items before t m) ∧
      t.weight + hs.countP Happening.isWork ≤ s.weight := by
  induction hs generalizing s es n with
  | nil =>
    cases run
    exact ⟨⟨n, held⟩, Nat.le_refl _⟩
  | cons h hs ih =>
    obtain ⟨u, happens, rest⟩ := run_cons_iff.mp run
    have silent := quiet h List.mem_cons_self
    obtain ⟨m, next⟩ := held.after watched happens silent
    have lighter := step_lighter happens held.launched silent
    obtain ⟨chunks, light⟩ :=
      ih next (watched.after happens) (fun g member => quiet g (.tail h member)) rest
    refine ⟨chunks, ?_⟩
    rw [List.countP_cons]
    omega

/-- No step of the worker's is open to it, and no flush is under way. -/
def Rests (s : Stepwise α) : Prop := ∀ h, h.isWork = true → s.step? h = none

theorem Rests.cases {s : Stepwise α} (rests : s.Rests) (launched : s.writer.phase ≠ .unlaunched) :
    s.writer.phase = .waiting ∧ s.writer.queue.waiting = [] ∨ s.writer.phase = .exited := by
  obtain ⟨w, f⟩ := s
  cases phase : w.phase with
  | unlaunched => exact absurd phase launched
  | exited => exact Or.inr rfl
  | waiting =>
    have idle := rests .began rfl
    cases items : w.queue.waiting with
    | nil => exact Or.inl ⟨rfl, rfl⟩
    | cons a rest => simp [step?, phase, begin?, add?, items] at idle
  | flushing batch =>
    have idle := rests (.aside (.flushEnded none)) rfl
    simp [step?, Event.isOthers, after?, endFlush?, phase] at idle
  | filling batch =>
    exfalso
    cases f with
    | drawing room =>
      cases room with
      | zero => simpa [step?, phase, fill?] using rests (.decided true) rfl
      | succ room =>
        have draws := rests .drew rfl
        have looks := rests .foundEmpty rfl
        cases items : w.queue.waiting <;> simp [step?, phase, fill?, add?, items] at draws looks
    | drawn => simpa [step?, phase, fill?] using rests (.decided true) rfl
    | polling => simpa [step?, phase, fill?] using rests .pollEnded rfl
    | done => simpa [step?, phase, fill?] using rests .handedOver rfl

theorem work_quiet {h : Happening α} (work : h.isWork = true) : h.isQuiet = true := by
  cases h with
  | aside e =>
    cases e with
    | accepted a | stopRequested => cases work
    | _ => rfl
  | _ => rfl

section Run
variable {size capacity : Nat} {s : Stepwise α} {hs : List (Happening α)}
  (run : (start size capacity).run? hs = some s)
include run

theorem run_watched : Watched size capacity s hs := (Watched.begin size capacity).through run

theorem quiet_chunks (waiting : s.writer.phase = .waiting) (unasked : s.writer.stopRequested = false)
    {gs : List (Happening α)} {t : Stepwise α} (quiet : ∀ h ∈ gs, h.isQuiet = true)
    (later : s.run? gs = some t) :
    (∃ n, InChunks (max size 1) s.writer.queue.waiting s.writer t n) ∧
      t.weight + gs.countP Happening.isWork ≤ s.weight :=
  (InChunks.begin waiting unasked (Nat.le_max_right size 1)).through (run_watched run) quiet later

theorem quiet_run (waiting : s.writer.phase = .waiting) (unasked : s.writer.stopRequested = false)
    {gs : List (Happening α)} {t : Stepwise α} (quiet : ∀ h ∈ gs, h.isQuiet = true)
    (later : s.run? gs = some t) :
    t.writer.handed <+: s.writer.handed ++ chunks (max size 1) s.writer.queue.waiting ∧
      gs.countP Happening.isWork ≤ 6 * s.writer.queue.length + 1 ∧
      (t.Rests →
        t.writer.handed = s.writer.handed ++ chunks (max size 1) s.writer.queue.waiting ∧
        t.writer.stats.batches =
          s.writer.stats.batches + batchesFor (max size 1) s.writer.queue.length) := by
  obtain ⟨⟨n, held⟩, light⟩ := quiet_chunks run waiting unasked quiet later
  have full : s.weight = 6 * s.writer.queue.length + 1 := weight_waiting waiting
  refine ⟨?_, by omega, fun rests => held.all_out (rests.cases held.launched)⟩
  rw [held.handed]
  exact (List.prefix_append_right_inj _).mpr
    (firstChunks_chunks (Nat.le_max_right size 1) held.needed)

theorem settles_in_chunks (waiting : s.writer.phase = .waiting)
    (unasked : s.writer.stopRequested = false) (t : Timeline α) (here : t.writer = s.writer) :
    (t.settle none).writer.handed = s.writer.handed ++ chunks (max size 1) s.writer.queue.waiting ∧
      (t.settle none).writer.stats.batches =
        s.writer.stats.batches + batchesFor (max size 1) s.writer.queue.length := by
  have drawn : s.Drawn := by simp [Drawn, waiting]
  obtain ⟨f, gs, work, later⟩ := timeline_gets t none t.weight drawn here.symm
  obtain ⟨⟨n, held⟩, _⟩ :=
    quiet_chunks run waiting unasked (fun h member => work_quiet (work h member)) later
  refine held.all_out ?_
  obtain ⟨still, phase⟩ := Timeline.rest_cases (t.settle_rests none)
  rcases phase with unlaunched | exited | waiting
  · exact absurd unlaunched held.launched
  · exact Or.inr exited
  · exact Or.inl ⟨waiting, (turn_rests still waiting).2.1⟩

/-- A batch that is not full goes out only after the queue was found empty behind its last item. So
    what is waiting as the worker begins a batch goes out in chunks if nothing comes in after it:
    within so many steps of the worker's it is at rest and all chunks have been with the store, and
    time brings it there, however long it fills and whichever flushes fail. -/
theorem batches_as_full_as_possible :
    (∀ before h after, hs = before ++ h :: after → ∃ u v,
        (start size capacity).run? before = some u ∧ u.step? h = some v ∧
        v.run? after = some s ∧
        (v.writer.handed = u.writer.handed ∨
          ∃ batch, v.writer.handed = u.writer.handed ++ [batch] ∧
            (batch.length < max size 1 → FoundEmpty (start size capacity) before batch))) ∧
      (s.writer.phase = .waiting → s.writer.stopRequested = false →
        (∀ gs t, (∀ h ∈ gs, h.isQuiet = true) → s.run? gs = some t →
          t.writer.handed <+: s.writer.handed ++ chunks (max size 1) s.writer.queue.waiting ∧
          gs.countP Happening.isWork ≤ 6 * s.writer.queue.length + 1 ∧
          (t.Rests →
            t.writer.handed = s.writer.handed ++ chunks (max size 1) s.writer.queue.waiting ∧
            t.writer.stats.batches =
              s.writer.stats.batches + batchesFor (max size 1) s.writer.queue.length)) ∧
        ∀ t : Timeline α, t.writer = s.writer →
          (t.settle none).writer.handed =
            s.writer.handed ++ chunks (max size 1) s.writer.queue.waiting ∧
          (t.settle none).writer.stats.batches =
            s.writer.stats.batches + batchesFor (max size 1) s.writer.queue.length) := by
  constructor
  · rintro before h after rfl
    obtain ⟨u, v, first, happens, rest⟩ := run_split run
    exact ⟨u, v, first, happens, rest, (run_watched first).hands happens⟩
  · intro waiting unasked
    exact ⟨fun gs t => quiet_run run waiting unasked, settles_in_chunks run waiting unasked⟩

end Run

theorem third_item_apart :
    let hs : List (Happening Nat) := [.aside (.accepted 1), .aside (.accepted 2),
      .aside (.accepted 3), .aside .startCalled]
    let w : Writer Nat := { batchSize := 2, queue := ⟨4, [1, 2, 3], 1, true⟩, phase := .waiting }
    let gs : List (Happening Nat) := [.began, .drew, .decided false, .handedOver,
      .aside (.flushEnded (some 2)), .began, .foundEmpty, .decided true, .handedOver,
      .aside (.flushEnded none)]
    (start 2 4).run? hs = some ⟨w, .drawn⟩ ∧
      (∃ t, (Stepwise.mk w .drawn).run? gs = some t ∧ t.writer.handed <+: [[1, 2], [3]] ∧
        gs.countP Happening.isWork ≤ 19) ∧
      ∀ t : Timeline Nat, t.writer = w → (t.settle none).writer.handed = [[1, 2], [3]] ∧
        (t.settle none).writer.stats.batches = 2 := by
  intro hs w gs
  have run : (start 2 4).run? hs = some ⟨w, .drawn⟩ := by decide
  let end_ : Stepwise Nat := ⟨{ w with
    queue := ⟨4, [], 1, true⟩, handed := [[1, 2], [3]], stats := ⟨2, 1, 1⟩ }, .drawn⟩
  have later : (Stepwise.mk w .drawn).run? gs = some end_ := by decide
  have whole : w.handed ++ chunks (max 2 1) w.queue.waiting = [[1, 2], [3]] := by decide
  have two : w.stats.batches + batchesFor (max 2 1) w.queue.length = 2 := by decide
  obtain ⟨_, drains⟩ := batches_as_full_as_possible run
  obtain ⟨quietly, settles⟩ := drains rfl rfl
  obtain ⟨handed, steps, _⟩ := quietly gs end_ (by decide) later
  rw [whole] at handed settles
  rw [two] at settles
  exact ⟨run, ⟨end_, later, handed, steps⟩, settles⟩

end Stepwise
end AlarmHistory.Writer
