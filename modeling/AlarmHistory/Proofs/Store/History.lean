import AlarmHistory.Proofs.Bulk.Rounds
import AlarmHistory.Store.Script

/- What goes over the link during an upload. The store behind the link is any function of its state
   and the request; its rounds, as far as the client gets, make a run. -/
namespace AlarmHistory.Store
open Bulk
variable {σ : Type}

/-- The same link, but it notes what is sent and what comes back. -/
def Link.noting (link : Link (StateM σ)) : Link (StateM (σ × List (Request × Reply))) where
  send r := fun (s, noted) =>
    let (reply, s) := link.send r s
    (reply, s, noted ++ [(r, reply)])
  wait ms := fun (s, noted) => ((), (link.wait ms s).2, noted)

namespace Client
variable (link : Link (StateM σ)) (c : Client)

def roundsFrom : Nat → Upload → StateM σ (List Round)
  | 0, _ => pure []
  | fuel + 1, u => do
    let reply ← exchange link (c.bulkRequest (u.actions c.target))
    match u.absorb c.target c.retries (bulkAnswer reply) with
    | .again next => do
      link.wait (c.retryDelayMs * next.attempts)
      let later ← roundsFrom fuel next
      return ⟨u.pending, reply⟩ :: later
    | _ => return [⟨u.pending, reply⟩]

/-- The rounds of an upload, after the attempt to install the template. -/
def history (docs : List AlarmDocument) (s : σ) : List Round :=
  let installed := c.ensureTemplate link s
  (roundsFrom link installed.1 (installed.1.retries + 1) (.ofBatch docs) installed.2).1

def noted (docs : List AlarmDocument) (s : σ) : List (Request × Reply) :=
  (c.upload link.noting docs (s, [])).2.2

/-- What an exchange leaves on the link: nothing when there was no request. -/
def trace (r : Except StoreError Request) (reply : Except StoreError (Nat × String)) :
    Option (Request × Reply) :=
  r.toOption.map fun r => (r, match reply with
    | .ok (status, body) => .answered status body
    | .error _ => .unanswered)

def roundTrace (r : Round) : Option (Request × Reply) :=
  trace (c.bulkRequest (r.actions c.target)) r.reply

def attempt (s : σ) : List (Request × Reply) :=
  if c.templateReady then []
  else (trace c.templateRequest (exchange link c.templateRequest s).1).toList

theorem request_method {c : Client} {method : Method} {path contentType body : String} {r : Request}
    (made : c.request method path contentType body = .ok r) : r.method = method := by
  unfold request at made
  cases address : c.address path with
  | error fault => simp [address, Except.map] at made
  | ok a =>
    simp only [address, Except.map, Except.ok.injEq] at made
    rw [← made]

theorem trace_method {asked : Except StoreError Request} {method : Method}
    {reply : Except StoreError (Nat × String)} {e : Request × Reply}
    (asks : ∀ r, asked = .ok r → r.method = method) (left : trace asked reply = some e) :
    e.1.method = method := by
  obtain ⟨r, made, rfl⟩ := Option.map_eq_some_iff.mp left
  cases asked with
  | error fault => cases made
  | ok r' =>
    cases made
    exact asks r rfl

theorem rounds_succ (fuel : Nat) (u : Upload) (s : σ) :
    rounds link c (fuel + 1) u s =
      let (reply, s) := exchange link (c.bulkRequest (u.actions c.target)) s
      match u.absorb c.target c.retries (bulkAnswer reply) with
      | .landed => (.ok (), s)
      | .failed report => (.error report, s)
      | .again next =>
        rounds link c fuel next (link.wait (c.retryDelayMs * next.attempts) s).2 := by
  simp only [rounds, bind, StateT.bind, pure]
  generalize exchange link (c.bulkRequest (u.actions c.target)) s = result
  obtain ⟨reply, s⟩ := result
  simp only
  cases u.absorb c.target c.retries (bulkAnswer reply) <;> rfl

theorem roundsFrom_succ (fuel : Nat) (u : Upload) (s : σ) :
    roundsFrom link c (fuel + 1) u s =
      let (reply, s) := exchange link (c.bulkRequest (u.actions c.target)) s
      match u.absorb c.target c.retries (bulkAnswer reply) with
      | .again next =>
        let (later, s) :=
          roundsFrom link c fuel next (link.wait (c.retryDelayMs * next.attempts) s).2
        (⟨u.pending, reply⟩ :: later, s)
      | _ => ([⟨u.pending, reply⟩], s) := by
  simp only [roundsFrom, bind, StateT.bind, pure]
  generalize exchange link (c.bulkRequest (u.actions c.target)) s = result
  obtain ⟨reply, s⟩ := result
  simp only
  cases u.absorb c.target c.retries (bulkAnswer reply) <;> rfl

/-- Every round but the last uses up one of the retries, so the fuel does not run out. -/
theorem rounds_run (fuel : Nat) {u : Upload} (s : σ) (lasts : u.attempts + fuel = c.retries + 1)
    (some : 0 < fuel) :
    u.Run c.target c.retries (roundsFrom link c fuel u s).1 (rounds link c fuel u s).1 := by
  induction fuel generalizing u s with
  | zero => omega
  | succ fuel ih =>
    rw [rounds_succ, roundsFrom_succ]
    generalize exchange link (c.bulkRequest (u.actions c.target)) s = result
    obtain ⟨reply, s⟩ := result
    simp only
    cases absorbed : u.absorb c.target c.retries (bulkAnswer reply) with
    | landed => exact .landed absorbed
    | failed report => exact .failed absorbed
    | again next =>
      obtain ⟨spent, left⟩ := Upload.absorb_again absorbed
      exact .again absorbed (ih _ (by omega) (by omega))

theorem exchange_sent {τ : Type} (link : Link (StateM τ)) (r : Request) (s : τ) :
    exchange link (.ok r) s =
      (match (link.send r s).1 with
        | .unanswered => .error (.unanswered r.address.text)
        | .answered status body => .ok (status, body), (link.send r s).2) := by
  simp only [exchange, bind, StateT.bind]
  generalize link.send r s = result
  obtain ⟨reply, s⟩ := result
  cases reply <;> rfl

theorem exchange_noting (r : Except StoreError Request) (s : σ) (noted : List (Request × Reply)) :
    exchange link.noting r (s, noted) =
      let (reply, s) := exchange link r s
      (reply, s, noted ++ (trace r reply).toList) := by
  cases r with
  | error e =>
    change (Except.error e, s, noted) = (Except.error e, s, noted ++ [])
    rw [List.append_nil]
  | ok r =>
    rw [exchange_sent, exchange_sent]
    simp only [Link.noting, trace, Except.toOption]
    generalize link.send r s = result
    obtain ⟨reply, s⟩ := result
    cases reply <;> rfl

theorem rounds_noting (fuel : Nat) (u : Upload) (s : σ) (noted : List (Request × Reply)) :
    rounds link.noting c fuel u (s, noted) =
      ((rounds link c fuel u s).1, (rounds link c fuel u s).2,
        noted ++ (roundsFrom link c fuel u s).1.filterMap c.roundTrace) := by
  induction fuel generalizing u s noted with
  | zero => exact congrArg (fun noted => (_, s, noted)) (List.append_nil noted).symm
  | succ fuel ih =>
    rw [rounds_succ, rounds_succ, roundsFrom_succ, exchange_noting]
    generalize exchange link (c.bulkRequest (u.actions c.target)) s = result
    obtain ⟨reply, s⟩ := result
    have one : ∀ later, (⟨u.pending, reply⟩ :: later : List Round).filterMap c.roundTrace =
        (trace (c.bulkRequest (u.actions c.target)) reply).toList ++
          later.filterMap c.roundTrace := by
      intro later
      rw [List.filterMap_cons, roundTrace, Round.actions, ← Upload.actions]
      cases trace (c.bulkRequest (u.actions c.target)) reply <;> rfl
    simp only
    generalize (trace (c.bulkRequest (u.actions c.target)) reply).toList = new at one
    cases u.absorb c.target c.retries (bulkAnswer reply) with
    | landed | failed report => simp [one]
    | again next =>
      have waited : (link.noting.wait (c.retryDelayMs * next.attempts) (s, noted ++ new)).2 =
          ((link.wait (c.retryDelayMs * next.attempts) s).2, noted ++ new) := rfl
      simp only [waited, ih, List.append_assoc]
      generalize roundsFrom link c fuel next _ = rest
      obtain ⟨later, _⟩ := rest
      rw [one]

def installs : Except StoreError (Nat × String) → Bool
  | .ok (status, _) => isSuccess status
  | .error _ => false

theorem ensureTemplate_eq (s : σ) : c.ensureTemplate link s =
    if c.templateReady then (c, s)
    else
      (if installs (exchange link c.templateRequest s).1 then { c with templateReady := true } else c,
        (exchange link c.templateRequest s).2) := by
  unfold ensureTemplate
  split
  · rfl
  · simp only [bind, StateT.bind, pure]
    generalize exchange link c.templateRequest s = result
    obtain ⟨reply, s⟩ := result
    cases reply <;> rfl

theorem ensureTemplate_client (s : σ) :
    (c.ensureTemplate link s).1 = c ∨
      (c.ensureTemplate link s).1 = { c with templateReady := true } := by
  rw [ensureTemplate_eq]
  split
  · exact Or.inl rfl
  · dsimp only
    split
    · exact Or.inr rfl
    · exact Or.inl rfl

theorem ensureTemplate_noting (s : σ) :
    c.ensureTemplate link.noting (s, []) =
      ((c.ensureTemplate link s).1, (c.ensureTemplate link s).2, c.attempt link s) := by
  rw [ensureTemplate_eq, ensureTemplate_eq, attempt]
  split
  · rfl
  · rw [exchange_noting]
    generalize exchange link c.templateRequest s = result
    rfl

theorem attempt_puts (s : σ) : ∀ e ∈ c.attempt link s, e.1.method = .put := by
  intro e member
  unfold attempt at member
  split at member
  · cases member
  · exact trace_method (fun _ made => request_method made) (Option.mem_toList.mp member)

theorem ensureTemplate_same (s : σ) :
    (c.ensureTemplate link s).1.target = c.target ∧
      (c.ensureTemplate link s).1.retries = c.retries ∧
      (c.ensureTemplate link s).1.bulkRequest = c.bulkRequest := by
  rcases c.ensureTemplate_client link s with same | ready
  · rw [same]
    exact ⟨rfl, rfl, rfl⟩
  · rw [ready]
    exact ⟨rfl, rfl, rfl⟩

theorem rounds_post (rounds : List Round) :
    ∀ e ∈ rounds.filterMap c.roundTrace, e.1.method = .post := by
  intro e member
  obtain ⟨r, _, left⟩ := List.mem_filterMap.mp member
  exact trace_method (fun _ made => request_method made) left

theorem puts_and_posts {templates data : List (Request × Reply)}
    (puts : ∀ e ∈ templates, e.1.method = .put) (posts : ∀ e ∈ data, e.1.method = .post) :
    (templates ++ data).filter (fun e => e.1.method = .put) = templates ∧
      (templates ++ data).filter (fun e => e.1.method = .post) = data := by
  have no_put : data.filter (fun e => e.1.method = .put) = [] :=
    List.filter_eq_nil_iff.mpr fun e member => by simp [posts e member]
  have no_post : templates.filter (fun e => e.1.method = .post) = [] :=
    List.filter_eq_nil_iff.mpr fun e member => by simp [puts e member]
  rw [List.filter_append, List.filter_append, no_put, no_post, List.append_nil, List.nil_append]
  exact ⟨List.filter_eq_self.mpr (by simpa using puts), List.filter_eq_self.mpr (by simpa using posts)⟩

theorem traces_length {a : Address} (usable : c.address "_bulk" = .ok a) (rounds : List Round) :
    (rounds.filterMap c.roundTrace).length = rounds.length := by
  rw [List.length_filterMap_eq_countP, List.countP_eq_length]
  intro r _
  simp [roundTrace, trace, bulkRequest, request, usable, Except.map, Except.toOption]

section Upload
variable {docs : List AlarmDocument} (batch : docs ≠ [])
include batch

theorem upload_batch {τ : Type} (link : Link (StateM τ)) (s : τ) :
    c.upload link docs s =
      let installed := c.ensureTemplate link s
      let ended := rounds link installed.1 (installed.1.retries + 1) (.ofBatch docs) installed.2
      ((ended.1, installed.1), ended.2) := by
  have filled : ¬ docs.isEmpty := by simpa using batch
  rw [upload, if_neg filled]
  simp only [bind, StateT.bind, pure]
  generalize c.ensureTemplate link s = installed
  obtain ⟨c, s⟩ := installed
  simp only
  generalize rounds link c (c.retries + 1) (Upload.ofBatch docs) s = ended
  rfl

theorem upload_run (s : σ) :
    (Upload.ofBatch docs).Run c.target c.retries (c.history link docs s)
      (c.upload link docs s).1.1 := by
  obtain ⟨target, retries, _⟩ := c.ensureTemplate_same link s
  have lasts : (Upload.ofBatch docs).attempts + ((c.ensureTemplate link s).1.retries + 1) =
      (c.ensureTemplate link s).1.retries + 1 := by simp [Upload.ofBatch]
  rw [upload_batch c batch, history, ← target, ← retries]
  dsimp only
  exact rounds_run link _ _ _ lasts (Nat.succ_pos _)

theorem upload_noting (s : σ) : c.upload link.noting docs (s, []) =
    ((c.upload link docs s).1, (c.upload link docs s).2,
      c.attempt link s ++ (c.history link docs s).filterMap c.roundTrace) := by
  obtain ⟨target, _, request⟩ := c.ensureTemplate_same link s
  have traces : (c.ensureTemplate link s).1.roundTrace = c.roundTrace := by
    funext r
    rw [roundTrace, roundTrace, target, request]
  rw [upload_batch c batch, upload_batch c batch, ensureTemplate_noting, history, ← traces]
  simp only [rounds_noting]

theorem upload_noted (s : σ) :
    c.noted link docs s = c.attempt link s ++ (c.history link docs s).filterMap c.roundTrace := by
  rw [noted, upload_noting link c batch]

theorem upload_posts (s : σ) :
    ((c.noted link docs s).filter fun e => e.1.method = .post) =
      (c.history link docs s).filterMap c.roundTrace := by
  rw [upload_noted link c batch s]
  exact (puts_and_posts (attempt_puts link c s) (rounds_post c _)).2

/-- Every position is reported unless it has landed in some round. What a report says of one is
    what its document says, and what the store was asked. -/
theorem upload_reports_exactly (s : σ) :
    (c.history link docs s).length ≤ c.retries + 1 ∧
    (c.history link docs s).head?.map Round.carried = some (Upload.numbered docs) ∧
    ((c.noted link docs s).filter fun e => e.1.method = .post) =
      (c.history link docs s).filterMap c.roundTrace ∧
    (∀ p < docs.length, p ∉ Upload.reported (c.upload link docs s).1.1 ↔
      ∃ r ∈ c.history link docs s, r.Landed c.target p) ∧
    ((c.upload link docs s).1.1 = .ok () ↔ Upload.reported (c.upload link docs s).1.1 = []) ∧
    ∀ report, (c.upload link docs s).1.1 = .error report →
      report.Describes c.target docs (c.history link docs s).length ∧
      (∀ w ∈ report.unwritten, ∀ r ∈ c.history link docs s, ∀ a ∈ r.actions c.target,
        a.owner = w.position → a.index = w.index ∧ a.id = w.id) ∧
      (∀ a, c.address "_bulk" = .ok a →
        report.attempts = ((c.noted link docs s).filter fun e => e.1.method = .post).length) ∧
      report.unwritten.length ≤ report.total ∧
      report.total - report.unwritten.length =
        {p | p < docs.length ∧ ∃ r ∈ c.history link docs s, r.Landed c.target p}.ncard := by
  have run := upload_run link c batch s
  have accounts := Upload.accounts_start c.target docs
  have posts := upload_posts link c batch s
  have exact := run.reported_iff accounts
  rw [List.nil_append] at exact
  refine ⟨?_, run.first_carries, posts, ?_, run.ok_iff accounts, ?_⟩
  · have short := run.length_le accounts (Nat.zero_le _)
    rwa [List.nil_append] at short
  · intro p small
    rw [exact, not_and, not_not]
    exact forall_prop_of_true small
  · intro report failed
    have describes := run.report_describes accounts failed
    rw [List.nil_append] at describes
    rw [failed] at exact
    refine ⟨describes, ?_, ?_, describes.landed_count exact⟩
    · intro w member r here a asked own
      obtain ⟨d, listed, id, _, index⟩ := describes.named w member
      obtain ⟨d', carried, index', id'⟩ := action_of_document asked
      have numbered := (run.carried_numbered accounts r here).subset carried
      have listed' := Upload.numbered_member.mp numbered
      rw [own, listed, Option.some.injEq] at listed'
      rw [index, id, index', id', listed']
      exact ⟨rfl, rfl⟩
    · intro a usable
      rw [describes.attempts, posts, traces_length c usable]

end Upload

def loopback : Client where
  base := "http://[::1]"
  username := none
  password := none
  target := ⟨"a", .yearly⟩
  retries := 1
  retryDelayMs := 0
  timeoutMs := 0
  templateReady := true

def secondRefused : Reply := .answered 200
  ("\x7b\"items\":[\x7b\"update\":\x7b\"status\":200\x7d\x7d," ++
    "\x7b\"update\":\x7b\"status\":400\x7d\x7d]\x7d")

theorem partial_upload_reports_exactly :
    let docs : List AlarmDocument := [.ofIdentity 1 "a" 0, .ofIdentity 2 "b" 0]
    let script : Script := { bulk := [secondRefused] }
    docs ≠ [] ∧ Upload.reported (loopback.upload Script.link docs script).1.1 = [1] ∧
      (∃ r ∈ loopback.history Script.link docs script, r.Landed loopback.target 0) ∧
      ¬ ∃ r ∈ loopback.history Script.link docs script, r.Landed loopback.target 1 := by
  intro docs script
  have batch : docs ≠ [] := List.cons_ne_nil _ _
  have reported : Upload.reported (loopback.upload Script.link docs script).1.1 = [1] := by
    decide +kernel
  obtain ⟨_, _, _, landed, _⟩ := upload_reports_exactly Script.link loopback batch script
  rw [reported] at landed
  refine ⟨batch, reported, (landed 0 (by decide)).mp (by decide), fun still => ?_⟩
  exact (landed 1 (by decide)).mpr still (by decide)

end Client
end AlarmHistory.Store
