import AlarmHistory.Queue
import Mathlib.Data.List.Basic

/- A queue in use. Any producer offers, brings in another or goes; the receiver waits for items, polls
   for them or drains them, until it goes too. The calls come in any order, each as it is answered: a
   take that still waits is no call yet. What was received and what is queued are together what was
   accepted, in order, for as long as there is a receiver. -/
namespace AlarmHistory

section Runs
variable {σ ε : Type} {step : σ → ε → Option σ} {s v : σ}

theorem run_cons_iff {e : ε} {es : List ε} :
    (e :: es).foldlM step s = some v ↔ ∃ u, step s e = some u ∧ es.foldlM step u = some v := by
  rw [List.foldlM_cons, Option.bind_eq_bind, Option.bind_eq_some_iff]

theorem run_append_iff {es fs : List ε} : (es ++ fs).foldlM step s = some v ↔
    ∃ u, es.foldlM step s = some u ∧ fs.foldlM step u = some v := by
  rw [List.foldlM_append, Option.bind_eq_bind, Option.bind_eq_some_iff]

/-- What every step keeps, a run keeps. The induction is on what is still to happen; what has happened
    moves on from `fs` to `es`. -/
theorem run_invariant {P : σ → List ε → Prop}
    (keeps : ∀ {s v : σ} {es : List ε} {e : ε}, P s es → step s e = some v → P v (es ++ [e]))
    (es : List ε) {fs : List ε} (held : P s es) (run : fs.foldlM step s = some v) :
    P v (es ++ fs) := by
  induction fs generalizing s es with
  | nil =>
    cases run
    simpa using held
  | cons e fs ih =>
    obtain ⟨u, first, rest⟩ := run_cons_iff.mp run
    simpa using ih (es ++ [e]) (keeps held first) rest

end Runs

namespace Queue
variable {α : Type}

theorem take_item {q q' : Queue α} {a : α} (taken : q.take = (.item a, q')) :
    q.waiting = a :: q'.waiting ∧ q' = { q with waiting := q'.waiting } := by
  unfold Queue.take at taken
  split at taken
  · rename_i b rest waiting
    simp only [Prod.mk.injEq, Arrival.item.injEq] at taken
    obtain ⟨rfl, rfl⟩ := taken
    exact ⟨waiting, rfl⟩
  · split at taken <;> simp at taken

theorem take_ended {q q' : Queue α} (taken : q.take = (.ended, q')) :
    q.waiting = [] ∧ q.producers = 0 := by
  unfold Queue.take at taken
  split at taken
  · simp at taken
  · rename_i waiting
    split at taken
    · exact ⟨waiting, by assumption⟩
    · simp at taken

inductive Call (α : Type) where
  | offer (a : α)
  | cloneProducer
  | dropProducer
  | take
  | poll
  | drain (batch : List α) (limit : Nat)
  | dropReceiver
  deriving DecidableEq, Repr

inductive Answer (α : Type) where
  | done
  | accepted
  | refused (why : Refusal)
  | found (item : Option α)
  | drained (batch : List α) (moved : Nat)
  deriving DecidableEq, Repr

structure Exchange (α : Type) where
  call : Call α
  answer : Answer α
  deriving DecidableEq, Repr

/-- The answer to a call, if somebody is there to make the call and it need not wait. A poll that finds
    nothing has waited in vain. -/
def answer? (q : Queue α) : Call α → Option (Answer α × Queue α)
  | .offer a =>
    if q.producers = 0 then none
    else
      match q.offer a with
      | .ok q' => some (.accepted, q')
      | .error why => some (.refused why, q)
  | .cloneProducer => if q.producers = 0 then none else some (.done, q.addProducer)
  | .dropProducer => if q.producers = 0 then none else some (.done, q.dropProducer)
  | .take =>
    if !q.isOpen then none
    else
      match q.take with
      | (.item a, q') => some (.found (some a), q')
      | (.ended, q') => some (.found none, q')
      | (.none, _) => none
  | .poll =>
    if !q.isOpen then none
    else
      match q.take with
      | (.item a, q') => some (.found (some a), q')
      | (_, q') => some (.found none, q')
  | .drain batch limit =>
    if !q.isOpen then none
    else
      let (more, q') := q.drain limit
      some (.drained (batch ++ more) more.length, q')
  | .dropReceiver => if !q.isOpen then none else some (.done, q.dropReceiver)

namespace Exchange

def accepted (x : Exchange α) : List α :=
  match x.call, x.answer with
  | .offer a, .accepted => [a]
  | _, _ => []

def received (x : Exchange α) : List α :=
  match x.call, x.answer with
  | .drain batch _, .drained after _ => after.drop batch.length
  | _, .found item => item.toList
  | _, _ => []

end Exchange

def accepted (xs : List (Exchange α)) : List α := xs.flatMap Exchange.accepted

def received (xs : List (Exchange α)) : List α := xs.flatMap Exchange.received

/-- A queue with all that has been said at its ends. The places that are free are counted apart from
    the items: producers learn the length of the queue from that count. -/
structure Traffic (α : Type) where
  queue : Queue α
  free : Nat
  exchanges : List (Exchange α) := []
  deriving DecidableEq, Repr

namespace Traffic

def ofCapacity (n : Nat) : Traffic α :=
  let queue : Queue α := .ofCapacity n
  { queue, free := queue.capacity }

/-- An accepted item takes a place. One that is received gives it back, and so does each that is lost
    with the receiver. -/
def freeAfter (t : Traffic α) (x : Exchange α) : Nat :=
  match x.call with
  | .dropReceiver => t.free + t.queue.length
  | _ => t.free + x.received.length - x.accepted.length

def call? (t : Traffic α) (c : Call α) : Option (Traffic α) :=
  (t.queue.answer? c).map fun (answer, queue) =>
    { queue, free := t.freeAfter ⟨c, answer⟩, exchanges := t.exchanges ++ [⟨c, answer⟩] }

def run? (t : Traffic α) (cs : List (Call α)) : Option (Traffic α) := cs.foldlM call? t

/-- The length as producers see it: the places that are not free. It must not go below zero. -/
def length? (t : Traffic α) : Option Nat :=
  if t.free ≤ t.queue.capacity then some (t.queue.capacity - t.free) else none

end Traffic

def producersAfter (cs : List (Call α)) : Nat :=
  cs.foldl (fun n c => match c with
    | .cloneProducer => n + 1
    | .dropProducer => n - 1
    | _ => n) 1

def Call.isReceiving : Call α → Bool
  | .take | .poll | .drain _ _ => true
  | _ => false

inductive Does (q : Queue α) : Exchange α → Queue α → Prop
  | accepts (a : α) (isOpen : q.isOpen = true) (room : q.length < q.capacity) :
    Does q ⟨.offer a, .accepted⟩ { q with waiting := q.waiting ++ [a] }
  | refuses (a : α) (why : Refusal) : Does q ⟨.offer a, .refused why⟩ q
  | clones : Does q ⟨.cloneProducer, .done⟩ q.addProducer
  | drops : Does q ⟨.dropProducer, .done⟩ q.dropProducer
  | gives {x : Exchange α} {rest : List α} (receiving : x.call.isReceiving = true)
    (waiting : q.waiting = x.received ++ rest) : Does q x { q with waiting := rest }
  | closes : Does q ⟨.dropReceiver, .done⟩ q.dropReceiver

section Calls
variable {q q' : Queue α} {c : Call α} {x : Answer α}

theorem offer_cases (q : Queue α) (a : α) : q.offer a =
    if q.isOpen = false then .error .closed
    else if q.length < q.capacity then .ok { q with waiting := q.waiting ++ [a] }
    else .error (.full q.capacity) := by
  unfold offer
  cases q.isOpen with
  | false => rfl
  | true =>
    by_cases room : q.length < q.capacity
    · have unfilled : ¬q.capacity ≤ q.length := by omega
      simp [room, unfilled]
    · have filled : q.capacity ≤ q.length := by omega
      simp [room, filled]

theorem offer_taken {a : α} (ok : q.offer a = .ok q') :
    q.isOpen = true ∧ q.length < q.capacity ∧ q' = { q with waiting := q.waiting ++ [a] } := by
  rw [offer_cases] at ok
  split at ok
  · cases ok
  · rename_i opened
    split at ok
    · rename_i room
      cases ok
      exact ⟨by simpa using opened, room, rfl⟩
    · cases ok

theorem offer_shut_iff {a : α} : q.offer a = .error .closed ↔ q.isOpen = false := by
  rw [offer_cases]
  by_cases shut : q.isOpen = false
  · simp [shut]
  · by_cases room : q.length < q.capacity <;> simp [shut, room]

theorem take_unchanged {arrival : Arrival α} (taken : q.take = (arrival, q'))
    (nothing : ∀ a, arrival ≠ .item a) : q' = q := by
  unfold take at taken
  split at taken
  · cases taken
    exact absurd rfl (nothing _)
  · cases taken
    rfl

theorem gives_first {a : α} (taken : q.take = (.item a, q')) (receiving : c.isReceiving = true)
    (undrained : ∀ batch limit, c ≠ .drain batch limit) : q.Does ⟨c, .found (some a)⟩ q' := by
  obtain ⟨waiting, same⟩ := take_item taken
  rw [same]
  refine .gives receiving ?_
  cases c with
  | drain batch limit => exact absurd rfl (undrained batch limit)
  | _ => exact waiting

theorem gives_nothing {arrival : Arrival α} (taken : q.take = (arrival, q'))
    (nothing : ∀ a, arrival ≠ .item a) (receiving : c.isReceiving = true)
    (undrained : ∀ batch limit, c ≠ .drain batch limit) : q.Does ⟨c, .found none⟩ q' := by
  rw [take_unchanged taken nothing]
  refine .gives receiving ?_
  cases c with
  | drain batch limit => exact absurd rfl (undrained batch limit)
  | _ => rfl

theorem answer_does (answered : q.answer? c = some (x, q')) : q.Does ⟨c, x⟩ q' := by
  cases c with
  | offer a =>
    simp only [answer?] at answered
    split at answered
    · cases answered
    · split at answered
      · rename_i taken
        cases answered
        obtain ⟨isOpen, room, rfl⟩ := offer_taken taken
        exact .accepts a isOpen room
      · cases answered
        exact .refuses a _
  | cloneProducer =>
    simp only [answer?] at answered
    split at answered
    · cases answered
    · cases answered
      exact .clones
  | dropProducer =>
    simp only [answer?] at answered
    split at answered
    · cases answered
    · cases answered
      exact .drops
  | take =>
    simp only [answer?] at answered
    split at answered
    · cases answered
    · split at answered
      · rename_i taken
        cases answered
        exact gives_first taken rfl nofun
      · rename_i taken
        cases answered
        exact gives_nothing taken nofun rfl nofun
      · cases answered
  | poll =>
    simp only [answer?] at answered
    split at answered
    · cases answered
    · split at answered
      · rename_i taken
        cases answered
        exact gives_first taken rfl nofun
      · rename_i nothing taken
        cases answered
        exact gives_nothing taken nothing rfl nofun
  | drain batch limit =>
    simp only [answer?, drain] at answered
    split at answered
    · cases answered
    · cases answered
      refine .gives rfl ?_
      simp only [Exchange.received, List.drop_left, List.take_append_drop]
  | dropReceiver =>
    simp only [answer?] at answered
    split at answered
    · cases answered
    · cases answered
      exact .closes

end Calls

namespace Does
variable {q q' : Queue α} {x : Exchange α}

theorem receiving_accepts (receiving : x.call.isReceiving = true) : x.accepted = [] := by
  obtain ⟨call, answer⟩ := x
  cases call with
  | take | poll | drain _ _ => rfl
  | _ => cases receiving

theorem items (does : q.Does x q') (stays : x.call ≠ .dropReceiver) :
    x.received ++ q'.waiting = q.waiting ++ x.accepted := by
  cases does with
  | accepts a => rfl
  | refuses a why | clones | drops => exact (List.append_nil _).symm
  | gives receiving waiting => rw [receiving_accepts receiving, List.append_nil, waiting]
  | closes => exact absurd rfl stays

theorem capacity_eq (does : q.Does x q') : q'.capacity = q.capacity := by
  cases does <;> rfl

theorem alive_iff (does : q.Does x q') :
    q'.isOpen = true ↔ q.isOpen = true ∧ x.call ≠ .dropReceiver := by
  cases does with
  | gives receiving waiting =>
    have stays : x.call ≠ .dropReceiver := by
      rintro same
      simp [same, Call.isReceiving] at receiving
    simp [stays]
  | _ => simp [addProducer, dropProducer, dropReceiver]

theorem producers_eq (does : q.Does x q') : q'.producers =
    match x.call with
    | .cloneProducer => q.producers + 1
    | .dropProducer => q.producers - 1
    | _ => q.producers := by
  cases does with
  | gives receiving waiting =>
    cases call : x.call <;> simp_all [Call.isReceiving]
  | _ => rfl

theorem accepted_fits (does : q.Does x q') :
    x.accepted = [] ∨ x.accepted.length = 1 ∧ q.length < q.capacity := by
  cases does with
  | accepts a isOpen room => exact Or.inr ⟨rfl, room⟩
  | gives receiving waiting => exact Or.inl (receiving_accepts receiving)
  | _ => exact Or.inl rfl

theorem closes_iff (does : q.Does x q') (closes : x.call = .dropReceiver) : q' = q.dropReceiver := by
  cases does with
  | closes => rfl
  | gives receiving waiting => simp [closes, Call.isReceiving] at receiving
  | _ => cases closes

end Does

theorem accepted_snoc (xs : List (Exchange α)) (x : Exchange α) :
    accepted (xs ++ [x]) = accepted xs ++ x.accepted := by
  simp [accepted]

theorem received_snoc (xs : List (Exchange α)) (x : Exchange α) :
    received (xs ++ [x]) = received xs ++ x.received := by
  simp [received]

theorem producersAfter_snoc (cs : List (Call α)) (c : Call α) : producersAfter (cs ++ [c]) =
    match c with
    | .cloneProducer => producersAfter cs + 1
    | .dropProducer => producersAfter cs - 1
    | _ => producersAfter cs := by
  simp only [producersAfter, List.foldl_append, List.foldl_cons, List.foldl_nil]

namespace Traffic
variable {t u : Traffic α} {c : Call α} {cs : List (Call α)} {capacity : Nat}

/-- What holds of a queue after any calls. -/
structure Orderly (capacity : Nat) (t : Traffic α) (cs : List (Call α)) : Prop where
  fifo : t.queue.isOpen = true → received t.exchanges ++ t.queue.waiting = accepted t.exchanges
  sized : t.queue.capacity = max capacity 1
  counted : t.free + t.queue.length = t.queue.capacity
  alive : t.queue.isOpen = true ↔ Call.dropReceiver ∉ cs
  producers : t.queue.producers = producersAfter cs
  said : t.exchanges.map Exchange.call = cs

theorem call_does (called : t.call? c = some u) : ∃ x : Exchange α, x.call = c ∧
    t.queue.Does x u.queue ∧ u.free = t.freeAfter x ∧ u.exchanges = t.exchanges ++ [x] := by
  obtain ⟨⟨answer, q⟩, answered, rfl⟩ := Option.map_eq_some_iff.mp called
  exact ⟨⟨c, answer⟩, rfl, answer_does answered, rfl, rfl⟩

theorem counted_after {x : Exchange α} {q : Queue α} (does : t.queue.Does x q)
    (counted : t.free + t.queue.length = t.queue.capacity) :
    t.freeAfter x + q.length = q.capacity := by
  rw [does.capacity_eq]
  by_cases closes : x.call = .dropReceiver
  · rw [does.closes_iff closes]
    simpa [freeAfter, closes, dropReceiver, length] using counted
  · have free : t.freeAfter x = t.free + x.received.length - x.accepted.length := by
      unfold freeAfter
      split
      · contradiction
      · rfl
    have lengths := congrArg List.length (does.items closes)
    rw [List.length_append, List.length_append] at lengths
    rw [free]
    unfold length at counted ⊢
    rcases does.accepted_fits with nothing | ⟨one, room⟩
    · rw [nothing] at lengths ⊢
      simp only [List.length_nil] at lengths ⊢
      omega
    · unfold length at room
      omega

namespace Orderly

theorem start (capacity : Nat) : Orderly capacity (ofCapacity capacity : Traffic α) [] where
  fifo _ := rfl
  sized := rfl
  counted := rfl
  alive := by simp [ofCapacity, Queue.ofCapacity]
  producers := rfl
  said := rfl

theorem after (orderly : Orderly capacity t cs) (called : t.call? c = some u) :
    Orderly capacity u (cs ++ [c]) := by
  obtain ⟨x, rfl, does, free, exchanges⟩ := call_does called
  constructor
  case fifo =>
    intro alive
    obtain ⟨before, stays⟩ := does.alive_iff.mp alive
    rw [exchanges, received_snoc, accepted_snoc, ← orderly.fifo before, List.append_assoc,
      List.append_assoc, does.items stays]
  case sized => rw [does.capacity_eq, orderly.sized]
  case counted =>
    rw [free]
    exact counted_after does orderly.counted
  case alive =>
    rw [does.alive_iff, orderly.alive, List.mem_append, List.mem_singleton, not_or, ne_comm]
  case producers =>
    rw [does.producers_eq, producersAfter_snoc, orderly.producers]
  case said => rw [exchanges, List.map_append, orderly.said, List.map_singleton]

theorem through {ds : List (Call α)} (orderly : Orderly capacity t cs) (run : t.run? ds = some u) :
    Orderly capacity u (cs ++ ds) :=
  run_invariant (P := Orderly capacity) after cs orderly run

theorem bounded (orderly : Orderly capacity t cs) : t.queue.length ≤ max capacity 1 := by
  rw [← orderly.sized, ← orderly.counted]
  exact Nat.le_add_left ..

theorem length_known (orderly : Orderly capacity t cs) : t.length? = some t.queue.length := by
  have counted := orderly.counted
  rw [length?, if_pos (by omega)]
  congr 1
  omega

end Orderly

end Traffic

theorem offer_answer {q : Queue α} (some_producer : q.producers ≠ 0) (a : α) :
    q.answer? (.offer a) = some (
      if q.isOpen = false then (.refused .closed, q)
      else if q.length < q.capacity then (.accepted, { q with waiting := q.waiting ++ [a] })
      else (.refused (.full q.capacity), q)) := by
  simp only [answer?, if_neg some_producer, offer_cases]
  by_cases shut : q.isOpen = false
  · simp only [if_pos shut]
  · by_cases room : q.length < q.capacity
    · simp only [if_neg shut, if_pos room]
    · simp only [if_neg shut, if_neg room]

theorem take_ends_iff {q q' : Queue α} : q.answer? .take = some (.found none, q') ↔
    q.isOpen = true ∧ q.producers = 0 ∧ q.waiting = [] ∧ q' = q := by
  cases isOpen : q.isOpen with
  | false => simp [answer?, isOpen]
  | true =>
    cases waiting : q.waiting with
    | cons a rest => simp [answer?, isOpen, take, waiting]
    | nil =>
      by_cases gone : q.producers = 0
      · simp [answer?, isOpen, take, waiting, gone, eq_comm]
      · simp [answer?, isOpen, take, waiting, gone]

theorem poll_answer {q : Queue α} (isOpen : q.isOpen = true) {a : α} {rest : List α}
    (waiting : q.waiting = a :: rest) :
    q.answer? .poll = some (.found (some a), { q with waiting := rest }) := by
  simp [answer?, isOpen, take, waiting]

theorem drain_answer {q : Queue α} (isOpen : q.isOpen = true) (batch : List α) (limit : Nat) :
    ∃ moved rest, q.waiting = moved ++ rest ∧ moved.length = min limit q.length ∧
      q.answer? (.drain batch limit) =
        some (.drained (batch ++ moved) moved.length, { q with waiting := rest }) := by
  refine ⟨q.waiting.take limit, q.waiting.drop limit, (List.take_append_drop ..).symm,
    List.length_take, ?_⟩
  simp [answer?, isOpen, drain]

/-- Polls get the first items one by one. So a drain is like a row of polls, between which others may
    have their turn. -/
theorem polls_give {t : Traffic α} (isOpen : t.queue.isOpen = true) {moved rest : List α}
    (waiting : t.queue.waiting = moved ++ rest) :
    ∃ u, t.run? (List.replicate moved.length .poll) = some u ∧
      u.queue = { t.queue with waiting := rest } ∧
      received u.exchanges = received t.exchanges ++ moved := by
  induction moved generalizing t with
  | nil =>
    refine ⟨t, rfl, ?_, (List.append_nil _).symm⟩
    rw [← show t.queue.waiting = rest from waiting]
  | cons a moved ih =>
    obtain ⟨u, called, queue, exchanges⟩ : ∃ u, t.call? .poll = some u ∧
        u.queue = { t.queue with waiting := moved ++ rest } ∧
        u.exchanges = t.exchanges ++ [⟨.poll, .found (some a)⟩] :=
      ⟨_, by rw [Traffic.call?, poll_answer isOpen waiting]; rfl, rfl, rfl⟩
    obtain ⟨v, run, queue', received'⟩ := ih (t := u) (by rw [queue, isOpen]) (by rw [queue])
    refine ⟨v, ?_, by rw [queue', queue], ?_⟩
    · exact run_cons_iff.mpr ⟨u, called, run⟩
    · rw [received', exchanges, received_snoc, List.append_assoc]
      rfl

/-- A queue hands on what it has accepted, in order, and never holds more than its capacity. -/
theorem bounded_fifo {capacity : Nat} {cs : List (Call α)} {t : Traffic α}
    (run : (Traffic.ofCapacity capacity).run? cs = some t) :
    t.exchanges.map Exchange.call = cs ∧ t.queue.producers = producersAfter cs ∧
    (t.queue.isOpen = true ↔ Call.dropReceiver ∉ cs) ∧
    (t.queue.isOpen = true → received t.exchanges ++ t.queue.waiting = accepted t.exchanges) ∧
    t.queue.length ≤ max capacity 1 ∧ t.length? = some t.queue.length ∧
    (t.queue.producers ≠ 0 → ∀ a, t.queue.answer? (.offer a) = some (
      if t.queue.isOpen = false then (.refused .closed, t.queue)
      else if t.queue.length < max capacity 1 then
        (.accepted, { t.queue with waiting := t.queue.waiting ++ [a] })
      else (.refused (.full (max capacity 1)), t.queue))) ∧
    (t.queue.isOpen = true → ∀ batch limit, ∃ moved rest, t.queue.waiting = moved ++ rest ∧
      moved.length = min limit t.queue.length ∧
      t.queue.answer? (.drain batch limit) =
        some (.drained (batch ++ moved) moved.length, { t.queue with waiting := rest }) ∧
      ∃ u, t.run? (List.replicate moved.length .poll) = some u ∧
        u.queue = { t.queue with waiting := rest } ∧
        received u.exchanges = received t.exchanges ++ moved) ∧
    (∀ q, t.queue.answer? .take = some (.found none, q) ↔
      t.queue.isOpen = true ∧ t.queue.producers = 0 ∧ t.queue.waiting = [] ∧ q = t.queue) := by
  have orderly := (Traffic.Orderly.start capacity).through run
  refine ⟨orderly.said, orderly.producers, orderly.alive, orderly.fifo, orderly.bounded,
    orderly.length_known, ?_, ?_, fun q => take_ends_iff⟩
  · intro some_producer a
    rw [← orderly.sized]
    exact offer_answer some_producer a
  · intro isOpen batch limit
    obtain ⟨moved, rest, waiting, count, answered⟩ := drain_answer isOpen batch limit
    exact ⟨moved, rest, waiting, count, answered, polls_give isOpen waiting⟩

theorem crowded_queue_in_order :
    let cs : List (Call Nat) :=
      [.offer 1, .cloneProducer, .offer 2, .offer 3, .drain [9] 1, .offer 4, .take]
    ∃ t, (Traffic.ofCapacity 2).run? cs = some t ∧ accepted t.exchanges = [1, 2, 4] ∧
      received t.exchanges ++ t.queue.waiting = accepted t.exchanges ∧
      t.queue.waiting = [4] ∧ t.length? = some 1 := by
  intro cs
  obtain ⟨t, run, items⟩ : ∃ t, (Traffic.ofCapacity 2).run? cs = some t ∧
      accepted t.exchanges = [1, 2, 4] ∧ t.queue.waiting = [4] ∧ t.queue.isOpen = true :=
    ⟨_, rfl, rfl, rfl, rfl⟩
  obtain ⟨_, _, _, fifo, _, length, _⟩ := bounded_fifo run
  refine ⟨t, run, items.1, fifo items.2.2, items.2.1, ?_⟩
  rw [length, Queue.length, items.2.1]
  rfl

end Queue
end AlarmHistory
