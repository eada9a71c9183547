import AlarmHistory.Proofs.Writer.Filling

/- The steps of a timeline, item by item. What the worker does there in one go, it does in single
   draws and polls too, so that a timeline shows nothing that a run of those does not reach. -/
namespace AlarmHistory.Writer
variable {α : Type}

namespace Stepwise

/-- The worker gets there by itself. -/
def GetsTo (s t : Stepwise α) : Prop :=
  ∃ hs : List (Happening α), (∀ h ∈ hs, h.isWork = true) ∧ s.run? hs = some t

namespace GetsTo
variable {s t u : Stepwise α}

theorem refl (s : Stepwise α) : s.GetsTo s := ⟨[], by simp, rfl⟩

theorem trans (first : s.GetsTo t) (second : t.GetsTo u) : s.GetsTo u := by
  obtain ⟨hs, work, run⟩ := first
  obtain ⟨gs, more, rest⟩ := second
  refine ⟨hs ++ gs, ?_, run_append_iff.mpr ⟨t, run, rest⟩⟩
  simpa [or_imp, forall_and] using ⟨work, more⟩

theorem step {h : Happening α} (work : h.isWork = true) (happens : s.step? h = some t) :
    s.GetsTo t :=
  ⟨[h], by simpa using work, run_cons_iff.mpr ⟨t, happens, rfl⟩⟩

end GetsTo

def Drawn (s : Stepwise α) : Prop :=
  ∀ batch, s.writer.phase = .filling batch → s.filling = .drawing 0 ∨ s.filling = .drawn

section Timed
variable {s : Stepwise α} {w v : Writer α} {e : Event α}

theorem holding_same {batch : List α} (filling : w.phase = .filling batch) :
    w.holding batch w.queue.waiting = w := by
  rw [holding, ← filling]

theorem topUp_eq (w : Writer α) (batch : List α) :
    w.topUp batch = w.holding (batch ++ w.queue.waiting.take (w.batchSize - batch.length))
      (w.queue.waiting.drop (w.batchSize - batch.length)) := rfl

theorem draws (w : Writer α) (batch items : List α) (room : Nat) : ∃ f,
    GetsTo ⟨w.holding batch items, .drawing room⟩
      ⟨w.holding (batch ++ items.take room) (items.drop room), f⟩ ∧
      (f = .drawing 0 ∨ f = .drawn) := by
  induction room generalizing batch items with
  | zero => exact ⟨.drawing 0, by simpa using GetsTo.refl _, Or.inl rfl⟩
  | succ room ih =>
    cases items with
    | nil =>
      refine ⟨.drawn, ?_, Or.inr rfl⟩
      rw [List.take_nil, List.drop_nil, List.append_nil]
      exact .step (h := .foundEmpty) rfl rfl
    | cons a items =>
      obtain ⟨f, draws, drawn⟩ := ih (batch ++ [a]) items
      refine ⟨f, ?_, drawn⟩
      rw [List.append_assoc] at draws
      exact (GetsTo.step (h := .drew) rfl rfl).trans draws

theorem begins {f : Filling} {a : α} {rest : List α} (waiting : w.phase = .waiting)
    (items : w.queue.waiting = a :: rest) :
    GetsTo ⟨w, f⟩ ⟨w.holding [a] rest, .drawing (w.batchSize - 1)⟩ := by
  refine .step (h := .began) rfl ?_
  simp [step?, waiting, begin?, add?, items]

theorem polls {f : Filling} {batch rest : List α} {a : α} (filling : w.phase = .filling batch)
    (drawn : f = .drawing 0 ∨ f = .drawn) (room : batch.length < w.batchSize)
    (items : w.queue.waiting = a :: rest) :
    GetsTo ⟨w, f⟩ ⟨w.holding (batch ++ [a]) rest,
      .drawing (w.batchSize - (batch.length + 1))⟩ := by
  have decides : step? ⟨w, f⟩ (.decided false) = some ⟨w, .polling⟩ := by
    rcases drawn with rfl | rfl <;> simp [step?, filling, fill?, room]
  refine (GetsTo.step rfl decides).trans (.step (h := .polled) rfl ?_)
  simp [step?, filling, fill?, add?, items]

theorem hands_over {f : Filling} {batch : List α} (filling : w.phase = .filling batch)
    (drawn : f = .drawing 0 ∨ f = .drawn) : GetsTo ⟨w, f⟩ ⟨w.hand batch, .drawn⟩ := by
  have decides : step? ⟨w, f⟩ (.decided true) = some ⟨w, .done⟩ := by
    rcases drawn with rfl | rfl <;> simp [step?, filling, fill?]
  refine (GetsTo.step rfl decides).trans (.step (h := .handedOver) rfl ?_)
  simp [step?, filling, fill?]

theorem goes (collecting : w.Collecting) (may : w.mayLeave = true) (f : Filling) :
    GetsTo ⟨w, f⟩ ⟨w.exit, .drawn⟩ := by
  refine .step (h := .left) rfl ?_
  rcases collecting with waiting | ⟨batch, filling⟩
  · simp [step?, waiting, begin?, may]
  · have leaves : fill? w batch f .left = if w.mayLeave then some ⟨w.exit, .drawn⟩ else none := by
      cases f with
      | drawing room => cases room <;> rfl
      | _ => rfl
    simp [step?, filling, leaves, may]

theorem tops_up {f : Filling} {batch : List α} (filling : w.phase = .filling batch)
    (drawn : f = .drawing 0 ∨ f = .drawn) :
    ∃ g, GetsTo ⟨w, f⟩ ⟨w.topUp batch, g⟩ ∧ (g = .drawing 0 ∨ g = .drawn) := by
  have nothing : w.topUp batch = w → ∃ g, GetsTo ⟨w, f⟩ ⟨w.topUp batch, g⟩ ∧
      (g = .drawing 0 ∨ g = .drawn) := fun same => ⟨f, by rw [same]; exact .refl _, drawn⟩
  by_cases room : batch.length < w.batchSize
  · cases items : w.queue.waiting with
    | nil =>
      refine nothing ?_
      rw [topUp_eq, items, List.take_nil, List.drop_nil, List.append_nil, ← items]
      exact holding_same filling
    | cons a rest =>
      obtain ⟨g, draws, drawn'⟩ := draws w (batch ++ [a]) rest (w.batchSize - (batch.length + 1))
      refine ⟨g, ?_, drawn'⟩
      have one : w.batchSize - batch.length = w.batchSize - (batch.length + 1) + 1 := by omega
      rw [topUp_eq, items, one, List.take_succ_cons, List.drop_succ_cons, List.append_cons]
      exact (polls filling drawn room items).trans draws
  · refine nothing ?_
    have full : w.batchSize - batch.length = 0 := by omega
    rw [topUp_eq, full, List.take_zero, List.drop_zero, List.append_nil]
    exact holding_same filling

theorem works_get {f : Filling} (works : w.Works v e) (drawn : Drawn ⟨w, f⟩) :
    ∃ g, GetsTo ⟨w, f⟩ ⟨v, g⟩ ∧ Drawn ⟨v, g⟩ := by
  cases works with
  | turned moves =>
    cases turn_moves moves with
    | stop collecting stop =>
      exact ⟨_, goes collecting (by simp [mayLeave, stop]) f, fun _ _ => Or.inr rfl⟩
    | done waiting empty gone =>
      have may : w.mayLeave = true := by simp [mayLeave, waiting, empty, gone]
      exact ⟨_, goes (Or.inl waiting) may f, fun _ _ => Or.inr rfl⟩
    | first waiting taken =>
      rename_i a queue
      obtain ⟨items, same⟩ := Queue.take_item taken
      obtain ⟨g, draws, drawn'⟩ := draws w [a] queue.waiting (w.batchSize - 1)
      refine ⟨g, (begins waiting items).trans ?_, fun _ _ => drawn'⟩
      rw [same]
      exact draws
    | more filling _ _ =>
      obtain ⟨g, gets, drawn'⟩ := tops_up filling (drawn _ filling)
      exact ⟨g, gets, fun _ _ => drawn'⟩
    | hand filling => exact ⟨_, hands_over filling (drawn _ filling), fun _ _ => Or.inr rfl⟩
  | expired filling =>
    simp only [fillExpired, filling]
    split
    · rename_i stop
      exact ⟨_, goes (Or.inr ⟨_, filling⟩) (by simp [mayLeave, stop]) f, fun _ _ => Or.inr rfl⟩
    · obtain ⟨g, gets, drawn'⟩ := tops_up filling (drawn _ filling)
      exact ⟨_, gets.trans (hands_over rfl drawn'), fun _ _ => Or.inr rfl⟩
  | landed flushing failed =>
    refine ⟨f, .step (h := .aside (.flushEnded failed)) rfl ?_, ?_⟩
    · simp [step?, Event.isOthers, after?, endFlush?, flushing]
    · simp [Drawn, flushEnded, flushing]

/-- As time passes, a writer does nothing but what its worker can do item by item. -/
theorem timeline_gets (t : Timeline α) (until? : Option Nat) (fuel : Nat) (drawn : s.Drawn)
    (here : s.writer = t.writer) :
    ∃ f, s.GetsTo ⟨(t.steps until? fuel).writer, f⟩ := by
  induction fuel generalizing s t with
  | zero =>
    refine ⟨s.filling, ?_⟩
    rw [Timeline.steps, ← here]
    exact .refl _
  | succ fuel ih =>
    rw [Timeline.steps]
    split
    · rename_i u next
      obtain ⟨e, works⟩ := Timeline.next_works next
      rw [← here] at works
      obtain ⟨f, gets, drawn'⟩ := works_get (f := s.filling) works drawn
      obtain ⟨g, rest⟩ := ih u drawn' rfl
      exact ⟨g, gets.trans rest⟩
    · rw [← here]
      exact ⟨s.filling, .refl _⟩

end Timed

end Stepwise
end AlarmHistory.Writer
