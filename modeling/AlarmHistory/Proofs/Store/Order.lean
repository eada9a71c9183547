import AlarmHistory.Proofs.Store.History
import AlarmHistory.Proofs.Store.Holdings

/- What a store holds after an upload, if it carries out just the actions that it answers with
   success. Within a request the order is that of the batch; but what is sent again comes after what
   has landed, and so, of the patches of one alarm, the last to land has the last word. -/
namespace AlarmHistory

def lastSome {α β : Type} (f : α → Option β) (l : List α) : Option β := l.reverse.findSome? f

section LastSome
variable {α β γ : Type} (f : α → Option β)

theorem lastSome_cons (a : α) (l : List α) : lastSome f (a :: l) = (lastSome f l).or (f a) := by
  rw [lastSome, List.reverse_cons, List.findSome?_append]
  cases given : f a <;> simp [lastSome, given]

theorem lastSome_append (l m : List α) :
    lastSome f (l ++ m) = (lastSome f m).or (lastSome f l) := by
  rw [lastSome, List.reverse_append, List.findSome?_append]
  rfl

theorem lastSome_flatMap (g : γ → List α) (l : List γ) :
    lastSome f (l.flatMap g) = lastSome (fun c => lastSome f (g c)) l := by
  induction l with
  | nil => rfl
  | cons c l ih => rw [List.flatMap_cons, lastSome_append, ih, lastSome_cons]

theorem lastSome_none_iff (l : List α) : lastSome f l = none ↔ ∀ a ∈ l, f a = none := by
  simp [lastSome, List.findSome?_eq_none_iff]

variable {f}

theorem lastSome_split {l : List α} {b : β} (given : lastSome f l = some b) :
    ∃ before a after, l = before ++ a :: after ∧ f a = some b ∧ ∀ x ∈ after, f x = none := by
  obtain ⟨after, a, before, reversed, here, absent⟩ := List.findSome?_eq_some_iff.mp given
  refine ⟨before.reverse, a, after.reverse, ?_, here, fun x late => absent x (by simpa using late)⟩
  have forward := congrArg List.reverse reversed
  simpa using forward

end LastSome
end AlarmHistory

namespace AlarmHistory.Bulk
open Store

namespace Action

theorem field?_carryOut_all (as : List Action) (h : Holdings) (place : Place) (k : String) :
    (as.foldl carryOut h).field? place k =
      (lastSome (writes? place k) as).or (h.field? place k) := by
  induction as generalizing h with
  | nil => rfl
  | cons a as ih => rw [List.foldl_cons, ih, field?_carryOut, lastSome_cons, Option.or_assoc]

end Action

theorem actionsOf_merges (t : Target) (p : Nat) (d : AlarmDocument) :
    ⟨p, t.indexOf d, d.id, .merge d.withoutLogs⟩ ∈ actionsOf t p d := by
  unfold actionsOf
  split <;> simp

theorem writes?_actionsOf {t : Target} {p : Nat} {d : AlarmDocument} {a : Action}
    (member : a ∈ actionsOf t p d) {place : Place} {k : String} {v : Json}
    (writes : a.writes? place k = some v) : t.placeOf d = place ∧ d.field? k = some v := by
  obtain ⟨_, index, id⟩ := owners_actionsOf t p d a member
  unfold Action.writes? at writes
  split at writes
  · rename_i here
    refine ⟨?_, ?_⟩
    · rw [here, Action.place, index, id]
      rfl
    · unfold actionsOf at member
      split at member <;> simp only [List.mem_cons, List.not_mem_nil, or_false] at member
      · rw [member] at writes
        exact writes
      · rcases member with rfl | rfl
        · exact writes
        · cases writes
  · cases writes

theorem actions_ordered (t : Target) {docs : List (Nat × AlarmDocument)}
    (ascending : (docs.map Prod.fst).Pairwise (· < ·)) :
    (actions t docs).Pairwise fun a b => a.owner ≤ b.owner := by
  refine List.pairwise_flatMap.mpr ⟨fun e _ => ?_, (List.pairwise_map.mp ascending).imp ?_⟩
  · refine List.Pairwise.imp_of_mem (R := fun _ _ => True) (fun {a b} ma mb _ => ?_)
      (List.pairwise_of_forall (fun _ _ => trivial))
    rw [(owners_actionsOf t e.1 e.2 a ma).1, (owners_actionsOf t e.1 e.2 b mb).1]
  · intro e f less a ma b mb
    rw [(owners_actionsOf t e.1 e.2 a ma).1, (owners_actionsOf t f.1 f.2 b mb).1]
    exact Nat.le_of_lt less

namespace Round

/-- The actions of a round that were answered with success, in their order. -/
def done (t : Target) (r : Round) : List Action :=
  match r.answer with
  | .results response =>
    ((r.actions t).zipIdx.filter fun e =>
      (Failure.ofResult? (response.resultAt e.2)).isNone).map Prod.fst
  | .noResults _ => []

theorem done_sublist (t : Target) (r : Round) : (r.done t).Sublist (r.actions t) := by
  unfold done
  split
  · have kept := (List.filter_sublist (l := (r.actions t).zipIdx)
      (p := fun e => (Failure.ofResult? (‹Response›.resultAt e.2)).isNone)).map Prod.fst
    rwa [List.zipIdx_map_fst] at kept
  · exact List.nil_sublist _

theorem done_of_landed {t : Target} {r : Round} {p : Nat} (landed : r.Landed t p) {a : Action}
    (asked : a ∈ r.actions t) (own : a.owner = p) : a ∈ r.done t := by
  obtain ⟨_, text, response, ok, decoded, all⟩ := landed
  obtain ⟨i, found⟩ := List.mem_iff_getElem?.mp asked
  have answered : r.answer = .results response :=
    (answer_results_iff r.reply response).mpr ⟨text, ok, decoded⟩
  unfold done
  rw [answered]
  refine List.mem_map.mpr ⟨(a, i), List.mem_filter.mpr ⟨?_, ?_⟩, rfl⟩
  · exact List.mem_zipIdx_iff_getElem?.mpr found
  · exact Option.isNone_iff_eq_none.mpr ((no_failure_iff response i).mpr (all i a found own))

end Round

def holdingsAfter (t : Target) (rounds : List Round) (h : Holdings) : Holdings :=
  (rounds.flatMap (Round.done t)).foldl Action.carryOut h

def LandsIn (t : Target) (rounds : List Round) (i p : Nat) : Prop :=
  ∃ r, rounds[i]? = some r ∧ r.Landed t p

/-- One position lands in an earlier round than another, or in the same round and before it. -/
def LandsBefore (t : Target) (rounds : List Round) (p q : Nat) : Prop :=
  ∃ i j, LandsIn t rounds i p ∧ LandsIn t rounds j q ∧ (i < j ∨ i = j ∧ p < q)

/-- The patch at a position writes a field of the document at a place. -/
structure Writes (t : Target) (docs : List AlarmDocument) (place : Place) (k : String) (p : Nat)
    (d : AlarmDocument) : Prop where
  listed : docs[p]? = some d
  here : t.placeOf d = place
  sets : (d.field? k).isSome

theorem Writes.known {t : Target} {docs : List AlarmDocument} {place : Place} {k : String} {p : Nat}
    {d : AlarmDocument} (writes : Writes t docs place k p d) : p < docs.length :=
  (List.getElem?_eq_some_iff.mp writes.listed).1

def LastInBatch (t : Target) (docs : List AlarmDocument) (place : Place) (k : String) (p : Nat)
    (d : AlarmDocument) : Prop :=
  Writes t docs place k p d ∧ ∀ q e, Writes t docs place k q e → q ≤ p

def LastToLand (t : Target) (docs : List AlarmDocument) (rounds : List Round) (place : Place)
    (k : String) (q : Nat) (e : AlarmDocument) : Prop :=
  Writes t docs place k q e ∧
    ∀ p d, Writes t docs place k p d → p ≠ q → LandsBefore t rounds p q

section Landing
variable {t : Target} {retries : Nat} {docs : List AlarmDocument} {rounds : List Round}
  (run : (Upload.ofBatch docs).Run t retries rounds (.ok ()))
include run

theorem all_land {p : Nat} (small : p < docs.length) : ∃ r ∈ rounds, r.Landed t p := by
  have missed := run.reported_iff (Upload.accounts_start t docs) p
  by_contra never
  have listed := missed.mpr ⟨small, never⟩
  cases listed

theorem landing_last {i j p : Nat} {o r : Round} (early : rounds[i]? = some o)
    (landed : o.Landed t p) (late : rounds[j]? = some r) (carried : p ∈ r.carried.map Prod.fst) :
    j ≤ i := by
  by_contra after
  obtain ⟨hi, rfl⟩ := List.getElem?_eq_some_iff.mp early
  obtain ⟨hj, rfl⟩ := List.getElem?_eq_some_iff.mp late
  have once := run.landed_once (Upload.accounts_start t docs)
  exact List.pairwise_iff_getElem.mp once i j hi hj (by omega) p carried landed

theorem lands_once {i j p : Nat} (first : LandsIn t rounds i p) (second : LandsIn t rounds j p) :
    i = j := by
  obtain ⟨o, early, landed⟩ := first
  obtain ⟨r, late, landed'⟩ := second
  exact Nat.le_antisymm (landing_last run late landed' early landed.1)
    (landing_last run early landed late landed'.1)

variable {place : Place} {k : String}

theorem carried_document {r : Round} (member : r ∈ rounds) {p : Nat} {d : AlarmDocument}
    (carried : (p, d) ∈ r.carried) : docs[p]? = some d :=
  Upload.numbered_member.mp
    ((run.carried_numbered (Upload.accounts_start t docs) r member).subset carried)

theorem landed_writes {r : Round} (member : r ∈ rounds) {p : Nat} {d : AlarmDocument}
    (landed : r.Landed t p) (writes : Writes t docs place k p d) :
    ∃ a ∈ r.done t, a.owner = p ∧ a.writes? place k = d.field? k := by
  obtain ⟨⟨p, d'⟩, carried, rfl⟩ := List.mem_map.mp landed.1
  have same := carried_document run member carried
  rw [writes.listed, Option.some.injEq] at same
  subst same
  have asked : ⟨p, t.indexOf d, d.id, .merge d.withoutLogs⟩ ∈ r.actions t :=
    List.mem_flatMap.mpr ⟨_, carried, actionsOf_merges t p d⟩
  exact ⟨_, Round.done_of_landed landed asked rfl, rfl, if_pos writes.here.symm⟩

theorem done_writes {r : Round} (member : r ∈ rounds) {a : Action} (done : a ∈ r.done t) {v : Json}
    (wrote : a.writes? place k = some v) :
    a.owner ∈ r.carried.map Prod.fst ∧
      ∃ e, Writes t docs place k a.owner e ∧ e.field? k = some v := by
  obtain ⟨⟨p, d⟩, carried, own⟩ := List.mem_flatMap.mp ((r.done_sublist t).subset done)
  obtain ⟨owner, _⟩ := owners_actionsOf t p d a own
  obtain ⟨here, value⟩ := writes?_actionsOf own wrote
  rw [owner]
  refine ⟨List.mem_map_of_mem carried, d, ⟨carried_document run member carried, here, ?_⟩, value⟩
  rw [value]
  rfl

theorem done_ordered {r : Round} (member : r ∈ rounds) :
    (r.done t).Pairwise fun a b => a.owner ≤ b.owner := by
  refine (actions_ordered t ?_).sublist (r.done_sublist t)
  have order := (run.carried_numbered (Upload.accounts_start t docs) r member).map Prod.fst
  rw [Upload.numbered_positions] at order
  exact List.pairwise_lt_range.sublist order

theorem some_write {p : Nat} {d : AlarmDocument} (writes : Writes t docs place k p d) :
    ∃ v, lastSome (fun r => lastSome (Action.writes? place k) (r.done t)) rounds = some v := by
  obtain ⟨r, member, landed⟩ := all_land run (writes.known)
  obtain ⟨a, done, _, wrote⟩ := landed_writes run member landed writes
  apply Option.ne_none_iff_exists'.mp
  intro never
  have quiet := (lastSome_none_iff _ _).mp ((lastSome_none_iff _ _).mp never r member) a done
  have sets := writes.sets
  rw [← wrote, quiet] at sets
  cases sets

/-- No patch that writes the field lands after the last round with an action that does. -/
theorem lands_by {before after : List Round} {r : Round} (split : rounds = before ++ r :: after)
    (quiet : ∀ o ∈ after, lastSome (Action.writes? place k) (o.done t) = none) {p : Nat}
    {d : AlarmDocument} (writes : Writes t docs place k p d) :
    ∃ i ≤ before.length, LandsIn t rounds i p := by
  obtain ⟨o, member, landed⟩ := all_land run (writes.known)
  obtain ⟨i, found⟩ := List.mem_iff_getElem?.mp member
  refine ⟨i, Nat.not_lt.mp fun beyond => ?_, o, found, landed⟩
  obtain ⟨a, done, _, wrote⟩ := landed_writes run member landed writes
  have late : o ∈ after := by
    obtain ⟨n, rfl⟩ : ∃ n, i = before.length + (n + 1) := ⟨i - before.length - 1, by omega⟩
    rw [split, List.getElem?_append_right (by omega), Nat.add_sub_cancel_left,
      List.getElem?_cons_succ] at found
    exact List.mem_of_getElem? found
  have sets := writes.sets
  rw [← wrote, (lastSome_none_iff _ _).mp (quiet o late) a done] at sets
  cases sets

theorem lands_ahead {r : Round} (member : r ∈ rounds) {earlier later : List Action} {a : Action}
    (actions : r.done t = earlier ++ a :: later)
    (silent : ∀ b ∈ later, b.writes? place k = none) {p : Nat} {d : AlarmDocument}
    (landed : r.Landed t p) (writes : Writes t docs place k p d) (other : p ≠ a.owner) :
    p < a.owner := by
  obtain ⟨b, done, rfl, wrote⟩ := landed_writes run member landed writes
  have order := done_ordered run member
  rw [actions] at done order
  rcases List.mem_append.mp done with first | rest
  · have le := (List.pairwise_append.mp order).2.2 b first a List.mem_cons_self
    omega
  · rcases List.mem_cons.mp rest with rfl | last
    · exact absurd rfl other
    · have sets := writes.sets
      rw [← wrote, silent b last] at sets
      cases sets

/-- Of the patches that write a field, one lands last, and its value is what the store ends up
    with, whatever it held before. -/
theorem last_to_land_stays {p : Nat} {d : AlarmDocument} (writes : Writes t docs place k p d)
    (h : Holdings) : ∃ q e, LastToLand t docs rounds place k q e ∧
      (holdingsAfter t rounds h).field? place k = e.field? k := by
  obtain ⟨v, given⟩ := some_write run writes
  obtain ⟨before, r, after, split, here, quiet⟩ := lastSome_split given
  obtain ⟨earlier, a, later, actions, wrote, silent⟩ := lastSome_split here
  have member : r ∈ rounds := by simp [split]
  have turn : rounds[before.length]? = some r := by simp [split]
  obtain ⟨carried, e, own, value⟩ := done_writes run member (by simp [actions]) wrote
  have landed : LandsIn t rounds before.length a.owner := by
    obtain ⟨i, early, o, found, landed⟩ := lands_by run split quiet own
    have same : before.length = i :=
      Nat.le_antisymm (landing_last run found landed turn carried) early
    exact same ▸ ⟨o, found, landed⟩
  refine ⟨a.owner, e, ⟨own, fun p d writes other => ?_⟩, ?_⟩
  · obtain ⟨i, early, o, found, landed'⟩ := lands_by run split quiet writes
    refine ⟨i, before.length, ⟨o, found, landed'⟩, landed, ?_⟩
    rcases Nat.lt_or_eq_of_le early with less | same
    · exact Or.inl less
    · rw [same, turn, Option.some.injEq] at found
      subst found
      exact Or.inr ⟨same, lands_ahead run member actions silent landed' writes other⟩
  · rw [holdingsAfter, Action.field?_carryOut_all, lastSome_flatMap, given, value]
    rfl

theorem last_to_land_unique {q q' : Nat} {e e' : AlarmDocument}
    (first : LastToLand t docs rounds place k q e)
    (second : LastToLand t docs rounds place k q' e') :
    e = e' := by
  by_cases same : q = q'
  · have listed := first.1.listed
    rw [same, second.1.listed, Option.some.injEq] at listed
    exact listed.symm
  · obtain ⟨i, j, hi, hj, order⟩ := second.2 q e first.1 same
    obtain ⟨j', i', hj', hi', order'⟩ := first.2 q' e' second.1 (Ne.symm same)
    have one := lands_once run hi hi'
    have two := lands_once run hj hj'
    omega

end Landing
end AlarmHistory.Bulk

namespace AlarmHistory.Store.Client
open Bulk
variable {σ : Type}

/-- After an upload without failures, a field has the value of the patch that landed last among
    those that write it. That is what the last of them in the batch carries exactly if the two carry
    the same. -/
theorem upload_in_order_iff (link : Link (StateM σ)) (c : Client) (s : σ) {docs : List AlarmDocument}
    (landed : (c.upload link docs s).1.1 = .ok ()) (h : Holdings) {place : Place} {k : String}
    {p : Nat} {d : AlarmDocument} (last : LastInBatch c.target docs place k p d) :
    (∃ q e, LastToLand c.target docs (c.history link docs s) place k q e ∧
      (holdingsAfter c.target (c.history link docs s) h).field? place k = e.field? k) ∧
    ((holdingsAfter c.target (c.history link docs s) h).field? place k = d.field? k ↔
      ∀ q e, LastToLand c.target docs (c.history link docs s) place k q e →
        e.field? k = d.field? k) := by
  have batch : docs ≠ [] := by
    rintro rfl
    cases last.1.listed
  have run := upload_run link c batch s
  rw [landed] at run
  obtain ⟨q, e, lands, value⟩ := last_to_land_stays run last.1 h
  refine ⟨⟨q, e, lands, value⟩, ?_⟩
  rw [value]
  constructor
  · intro same q' e' lands'
    rw [last_to_land_unique run lands' lands, same]
  · exact fun same => same q e lands

def tells (v : Severity) : AlarmDocument :=
  { AlarmDocument.ofIdentity 1 "a" 0 with snapshot := Snapshot.withSeverity {} v }

theorem field?_tells (v : Severity) : (tells v).field? "severity-id" = some (int32Json v.id) := by
  have field : (⟨"severity-id", fun s => s.severityId.map int32Json⟩ : Field Snapshot) ∈
      Snapshot.fields := by simp [Snapshot.fields]
  exact AlarmDocument.field?_eq (List.mem_append_right _ (List.mem_map_of_mem field)) (tells v)

theorem last_of_two (t : Target) (v w : Severity) :
    LastInBatch t [tells v, tells w] (t.placeOf (tells w)) "severity-id" 1 (tells w) := by
  exact ⟨⟨rfl, rfl, by rw [field?_tells]; rfl⟩, fun q e writes => Nat.le_of_lt_succ writes.known⟩

def firstPutOff : Reply := .answered 200
  ("\x7b\"items\":[\x7b\"update\":\x7b\"status\":429\x7d\x7d," ++
    "\x7b\"update\":\x7b\"status\":200\x7d\x7d]\x7d")

def lastPutOff : Reply := .answered 200
  ("\x7b\"items\":[\x7b\"update\":\x7b\"status\":200\x7d\x7d," ++
    "\x7b\"update\":\x7b\"status\":429\x7d\x7d]\x7d")

def accepted : Reply := .answered 200
  "\x7b\"items\":[\x7b\"update\":\x7b\"status\":200\x7d\x7d]\x7d"

/-- The store puts off the first of two patches of one alarm, and so it lands after the second and
    overwrites it. -/
theorem put_off_patch_overwrites :
    let docs := [tells .critical, tells .minor]
    let script : Script := { bulk := [firstPutOff, accepted] }
    let place := loopback.target.placeOf (tells .minor)
    (loopback.upload Script.link docs script).1.1 = .ok () ∧
      LastInBatch loopback.target docs place "severity-id" 1 (tells .minor) ∧
      (holdingsAfter loopback.target (loopback.history Script.link docs script)
        fun _ => none).field? place "severity-id" ≠ (tells .minor).field? "severity-id" := by
  intro docs script place
  have stored : holdingsAfter loopback.target (loopback.history Script.link docs script)
      (fun _ => none) place = some (tells .critical) := by decide +kernel
  refine ⟨by decide +kernel, last_of_two loopback.target .critical .minor, ?_⟩
  rw [Holdings.field?, stored, Option.bind_some, field?_tells, field?_tells]
  simp [int32Json, Severity.id]

theorem put_off_last_in_order :
    let docs := [tells .critical, tells .minor]
    let script : Script := { bulk := [lastPutOff, accepted] }
    let place := loopback.target.placeOf (tells .minor)
    (loopback.upload Script.link docs script).1.1 = .ok () ∧
      LastInBatch loopback.target docs place "severity-id" 1 (tells .minor) ∧
      (holdingsAfter loopback.target (loopback.history Script.link docs script)
        fun _ => none).field? place "severity-id" = (tells .minor).field? "severity-id" ∧
      ∀ q e, LastToLand loopback.target docs (loopback.history Script.link docs script) place
        "severity-id" q e → e.field? "severity-id" = (tells .minor).field? "severity-id" := by
  intro docs script place
  have landed : (loopback.upload Script.link docs script).1.1 = .ok () := by decide +kernel
  have last := last_of_two loopback.target .critical .minor
  have stored : holdingsAfter loopback.target (loopback.history Script.link docs script)
      (fun _ => none) place = some (tells .minor) := by decide +kernel
  have value : (holdingsAfter loopback.target (loopback.history Script.link docs script)
      fun _ => none).field? place "severity-id" = (tells .minor).field? "severity-id" := by
    rw [Holdings.field?, stored, Option.bind_some]
  have told := upload_in_order_iff Script.link loopback script landed (fun _ => none) last
  exact ⟨landed, last, value, told.2.mp value⟩

end AlarmHistory.Store.Client
