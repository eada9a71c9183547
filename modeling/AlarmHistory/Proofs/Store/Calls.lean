import AlarmHistory.Proofs.Store.History

/- Calls on one client of a store, one after the other, with what each of them sends. The template is
   tried for until it is installed and never again, and nothing else that is sent or answered depends
   on how the store takes it. -/
namespace AlarmHistory.Store
open Bulk
variable {σ : Type}

inductive Call where
  | ensureTemplate
  | upload (docs : List AlarmDocument)
  | allAlarms
  deriving DecidableEq, Repr

def Call.triesTemplate : Call → Bool
  | ensureTemplate => true
  | upload docs => !docs.isEmpty
  | allAlarms => false

inductive Outcome where
  | tried
  | uploaded (result : Except Bulk.Report Unit)
  | found (result : Except StoreError (List AlarmDocument))
  deriving DecidableEq, Repr

def Reply.succeeds : Reply → Bool
  | answered status _ => 200 ≤ status && status < 300
  | unanswered => false

/-- A call that was made: what came of it, and what went over the link with what came back. -/
structure Served where
  outcome : Outcome
  exchanged : List (Request × Reply)
  deriving DecidableEq, Repr

namespace Served

def templates (d : Served) : List (Request × Reply) := d.exchanged.filter fun e => e.1.method = .put

def data (d : Served) : List (Request × Reply) := d.exchanged.filter fun e => e.1.method = .post

def installed (d : Served) : Bool := d.templates.any fun e => e.2.succeeds

end Served

namespace Client

def perform [Monad m] (link : Link m) (c : Client) : Call → m (Outcome × Client)
  | .ensureTemplate => do return (.tried, ← c.ensureTemplate link)
  | .upload docs => do
    let (result, c) ← c.upload link docs
    return (.uploaded result, c)
  | .allAlarms => do return (.found (← c.allAlarms link), c)

def knowing (c : Client) (ready : Bool) : Client := { c with templateReady := ready }

theorem knowing_self (c : Client) : c.knowing c.templateReady = c := rfl

theorem knowing_ready (c : Client) (ready : Bool) : (c.knowing ready).templateReady = ready := rfl

theorem knowing_target (c : Client) (ready : Bool) : (c.knowing ready).target = c.target := rfl

theorem knowing_bulk (c : Client) (ready : Bool) : (c.knowing ready).bulkRequest = c.bulkRequest := rfl

theorem knowing_search (c : Client) (ready : Bool) :
    (c.knowing ready).searchRequest = c.searchRequest := rfl

def installation (c : Client) (a : Address) : Request where
  method := .put
  address := a
  authorization := c.authorization a
  contentType := "application/json"
  body := (templateJson c.target.indexPrefix).text
  timeoutMs := c.timeoutMs

/-- The request for the template, unless it has no usable address. -/
def installations (c : Client) : List Request :=
  (c.address ("_index_template/" ++ c.target.indexPrefix)).toOption.toList.map c.installation

theorem templateRequest_made (c : Client) : c.templateRequest.toOption.toList = c.installations := by
  have made : c.templateRequest =
      (c.address ("_index_template/" ++ c.target.indexPrefix)).map c.installation := rfl
  rw [made, installations]
  cases c.address ("_index_template/" ++ c.target.indexPrefix) <;> rfl

theorem knowing_installations (c : Client) (ready : Bool) :
    (c.knowing ready).installations = c.installations := rfl

theorem installations_usable (c : Client) {a : Address}
    (usable : c.address ("_index_template/" ++ c.target.indexPrefix) = .ok a) :
    c.installations = [c.installation a] := by
  rw [installations, usable]
  rfl

section Performing
variable (link : Link (StateM σ)) (c : Client) (s : σ)

theorem perform_template : c.perform link .ensureTemplate s =
    ((.tried, (c.ensureTemplate link s).1), (c.ensureTemplate link s).2) := rfl

theorem perform_upload (docs : List AlarmDocument) : c.perform link (.upload docs) s =
    ((.uploaded (c.upload link docs s).1.1, (c.upload link docs s).1.2), (c.upload link docs s).2) :=
  rfl

theorem perform_search : c.perform link .allAlarms s =
    ((.found ((searchResults (exchange link c.searchRequest s).1).map Page.documents), c),
      (exchange link c.searchRequest s).2) := by
  simp only [perform, allAlarms, bind, StateT.bind, pure]
  generalize exchange link c.searchRequest s = result
  rfl

end Performing

section Noting
variable (link : Link (StateM σ)) (c : Client)

def serve (call : Call) (s : σ) : Served :=
  let ended := c.perform link.noting call (s, [])
  ⟨ended.1.1, ended.2.2⟩

def served (c : Client) : List Call → σ → List Served
  | [], _ => []
  | call :: calls, s =>
    let ended := c.perform link.noting call (s, [])
    c.serve link call s :: ended.1.2.served calls ended.2.1

/-- What a call sends for the template comes first. Noting it makes no difference to the call. -/
theorem perform_noting (call : Call) (s : σ) :
    ∃ data : List (Request × Reply), (∀ e ∈ data, e.1.method = .post) ∧
      c.perform link.noting call (s, []) = ((c.perform link call s).1, (c.perform link call s).2,
        (if call.triesTemplate then c.attempt link s else []) ++ data) := by
  cases call with
  | ensureTemplate =>
    rw [perform_template, perform_template, ensureTemplate_noting]
    exact ⟨[], by simp, by rw [List.append_nil]; rfl⟩
  | upload docs =>
    rw [perform_upload, perform_upload]
    cases docs with
    | nil => exact ⟨[], by simp, rfl⟩
    | cons d ds =>
      refine ⟨(c.history link (d :: ds) s).filterMap c.roundTrace, c.rounds_post _, ?_⟩
      have tries : (Call.upload (d :: ds)).triesTemplate = true := rfl
      rw [upload_noting link c (List.cons_ne_nil d ds), if_pos tries]
  | allAlarms =>
    rw [perform_search, perform_search, exchange_noting]
    refine ⟨(trace c.searchRequest (exchange link c.searchRequest s).1).toList, ?_, ?_⟩
    · intro e left
      exact trace_method (fun _ made => request_method made) (Option.mem_toList.mp left)
    · generalize exchange link c.searchRequest s = result
      rfl

theorem perform_client (call : Call) (s : σ) : (c.perform link call s).1.2 =
    if call.triesTemplate then (c.ensureTemplate link s).1 else c := by
  cases call with
  | ensureTemplate | allAlarms => rfl
  | upload docs =>
    rw [perform_upload]
    cases docs with
    | nil => rfl
    | cons d ds =>
      rw [upload_batch c (List.cons_ne_nil d ds)]
      rfl

theorem serve_parts (call : Call) (s : σ) :
    (c.serve link call s).templates = (if call.triesTemplate then c.attempt link s else []) ∧
      (c.serve link call s).exchanged =
        (c.serve link call s).templates ++ (c.serve link call s).data := by
  obtain ⟨data, posts, noting⟩ := c.perform_noting link call s
  have puts : ∀ e ∈ (if call.triesTemplate then c.attempt link s else []), e.1.method = .put := by
    split
    · exact c.attempt_puts link s
    · simp
  obtain ⟨first, second⟩ := puts_and_posts puts posts
  have all : (c.serve link call s).exchanged =
      (if call.triesTemplate then c.attempt link s else []) ++ data := by rw [serve, noting]
  rw [Served.templates, Served.data, all, first, second]
  exact ⟨rfl, rfl⟩

/-- The latch on the client closes with the first attempt that succeeds, and stays closed. -/
theorem ensureTemplate_ready (s : σ) : (c.ensureTemplate link s).1 =
    c.knowing (c.templateReady || (c.attempt link s).any fun e => e.2.succeeds) := by
  rw [ensureTemplate_eq, attempt]
  split
  · rename_i ready
    rw [ready, Bool.true_or, ← ready, knowing_self]
  · rename_i unready
    have answered : installs (exchange link c.templateRequest s).1 =
        (trace c.templateRequest (exchange link c.templateRequest s).1).toList.any
          fun e => e.2.succeeds := by
      cases c.templateRequest with
      | error fault => rfl
      | ok r =>
        cases (exchange link (.ok r) s).1 with
        | error e => rfl
        | ok answered => exact (Bool.or_false _).symm
    rw [← answered]
    dsimp only
    split
    · rename_i installed
      rw [installed, Bool.or_true]
      rfl
    · rename_i failed
      rw [Bool.eq_false_of_not_eq_true failed, Bool.or_false, knowing_self]

theorem client_after (call : Call) (s : σ) : (c.perform link.noting call (s, [])).1.2 =
    c.knowing (c.templateReady || (c.serve link call s).installed) := by
  obtain ⟨_, _, noting⟩ := c.perform_noting link call s
  rw [noting, perform_client, Served.installed, (c.serve_parts link call s).1]
  split
  · exact c.ensureTemplate_ready link s
  · rw [List.any_nil, Bool.or_false, knowing_self]

theorem served_at (calls : List Call) (s : σ) {i : Nat} {call : Call} (here : calls[i]? = some call) :
    ∃ u, (c.served link calls s)[i]? = some (serve link
      (c.knowing (c.templateReady || ((c.served link calls s).take i).any Served.installed)) call u) := by
  induction calls generalizing c s i with
  | nil => simp at here
  | cons first calls ih =>
    cases i with
    | zero =>
      cases here
      refine ⟨s, ?_⟩
      rw [List.take_zero, List.any_nil, Bool.or_false]
      rfl
    | succ i =>
      obtain ⟨u, at_i⟩ := ih (c.perform link.noting first (s, [])).1.2
        (c.perform link.noting first (s, [])).2.1 here
      refine ⟨u, ?_⟩
      rw [served, List.getElem?_cons_succ, List.take_succ_cons, List.any_cons, ← Bool.or_assoc]
      rw [client_after] at at_i ⊢
      exact at_i

theorem attempt_requests (s : σ) : (c.attempt link s).map Prod.fst =
    if c.templateReady then [] else c.installations := by
  unfold attempt
  split
  · rfl
  · rw [← templateRequest_made]
    cases c.templateRequest <;> rfl

theorem templates_served (fresh : c.templateReady = false) (calls : List Call) (s : σ) {i : Nat}
    {call : Call} (here : calls[i]? = some call) :
    ∃ done, (c.served link calls s)[i]? = some done ∧
      done.exchanged = done.templates ++ done.data ∧
      done.templates.map Prod.fst =
        if call.triesTemplate ∧ ∀ d ∈ (c.served link calls s).take i, ¬ d.installed then
          c.installations
        else [] := by
  obtain ⟨u, at_i⟩ := c.served_at link calls s here
  rw [fresh, Bool.false_or] at at_i
  obtain ⟨templates, exchanged⟩ := serve_parts link
    (c.knowing (((c.served link calls s).take i).any Served.installed)) call u
  refine ⟨_, at_i, exchanged, ?_⟩
  rw [templates]
  cases tries : call.triesTemplate with
  | false => simp
  | true =>
    rw [if_pos rfl, attempt_requests, knowing_ready, knowing_installations]
    by_cases before : ∃ d ∈ (c.served link calls s).take i, d.installed = true
    · rw [if_pos (List.any_eq_true.mpr before), if_neg (by simpa using before)]
    · rw [if_neg (mt List.any_eq_true.mp before), if_pos (by simpa using before)]

end Noting
end Client

/-- A relation between states of a store: related ones answer posts alike and stay related, whatever
    is put to one of them. -/
structure Link.Indifferent (link : Link (StateM σ)) (alike : σ → σ → Prop) : Prop where
  symm : ∀ {s t}, alike s t → alike t s
  post : ∀ {s t r}, alike s t → r.method = .post →
    (link.send r s).1 = (link.send r t).1 ∧ alike (link.send r s).2 (link.send r t).2
  put : ∀ {s t r}, alike s t → r.method = .put → alike (link.send r s).2 t
  wait : ∀ {s t} ms, alike s t → alike (link.wait ms s).2 (link.wait ms t).2

namespace Client

section Alike
variable {link : Link (StateM σ)} {alike : σ → σ → Prop} (indifferent : link.Indifferent alike)
  (c : Client) (ready : Bool) {s t : σ}

include indifferent

theorem exchange_alike (asked : Except StoreError Request)
    (posts : ∀ r, asked = .ok r → r.method = .post) (same : alike s t) :
    (exchange link asked s).1 = (exchange link asked t).1 ∧
      alike (exchange link asked s).2 (exchange link asked t).2 := by
  cases asked with
  | error e => exact ⟨rfl, same⟩
  | ok r =>
    obtain ⟨reply, still⟩ := indifferent.post same (posts r rfl)
    rw [exchange_sent, exchange_sent, reply]
    exact ⟨rfl, still⟩

theorem ensureTemplate_alike (same : alike s t) : alike (c.ensureTemplate link s).2 t := by
  rw [ensureTemplate_eq]
  split
  · exact same
  · cases asked : c.templateRequest with
    | error e => exact same
    | ok r =>
      rw [exchange_sent]
      exact indifferent.put same (request_method asked)

theorem rounds_alike (fuel : Nat) (u : Upload) (same : alike s t) :
    (rounds link c fuel u s).1 = (rounds link (c.knowing ready) fuel u t).1 ∧
      alike (rounds link c fuel u s).2 (rounds link (c.knowing ready) fuel u t).2 := by
  induction fuel generalizing u s t with
  | zero => exact ⟨rfl, same⟩
  | succ fuel ih =>
    have posted := exchange_alike indifferent (c.bulkRequest (u.actions c.target))
      (fun _ made => request_method made) same
    have pause : (c.knowing ready).retryDelayMs = c.retryDelayMs := rfl
    have retries : (c.knowing ready).retries = c.retries := rfl
    rw [rounds_succ, rounds_succ, knowing_bulk, knowing_target, retries, pause]
    generalize exchange link (c.bulkRequest (u.actions c.target)) s = one at posted ⊢
    generalize exchange link (c.bulkRequest (u.actions c.target)) t = two at posted ⊢
    obtain ⟨reply, s⟩ := one
    obtain ⟨reply', t⟩ := two
    obtain ⟨rfl, still⟩ := posted
    dsimp only
    cases u.absorb c.target c.retries (bulkAnswer reply) with
    | landed | failed report => exact ⟨rfl, still⟩
    | again next => exact ih next (indifferent.wait _ still)

theorem perform_alike (call : Call) (same : alike s t) :
    (c.perform link call s).1.1 = ((c.knowing ready).perform link call t).1.1 ∧
      alike (c.perform link call s).2 ((c.knowing ready).perform link call t).2 ∧
      ∃ later, ((c.knowing ready).perform link call t).1.2 =
        (c.perform link call s).1.2.knowing later := by
  have tried : alike (c.ensureTemplate link s).2 ((c.knowing ready).ensureTemplate link t).2 := by
    refine indifferent.symm (ensureTemplate_alike indifferent _ (indifferent.symm ?_))
    exact ensureTemplate_alike indifferent c same
  have left := c.ensureTemplate_ready link s
  have right := (c.knowing ready).ensureTemplate_ready link t
  cases call with
  | ensureTemplate =>
    rw [perform_template, perform_template, left, right]
    exact ⟨rfl, tried, _, rfl⟩
  | upload docs =>
    rw [perform_upload, perform_upload]
    cases docs with
    | nil => exact ⟨rfl, same, _, rfl⟩
    | cons d ds =>
      have batch : d :: ds ≠ [] := List.cons_ne_nil d ds
      rw [upload_batch c batch, upload_batch _ batch]
      dsimp only
      rw [left, right]
      obtain ⟨result, still⟩ := rounds_alike indifferent (c.knowing _) _ (c.retries + 1)
        (.ofBatch (d :: ds)) tried
      exact ⟨congrArg Outcome.uploaded result, still, _, rfl⟩
  | allAlarms =>
    obtain ⟨reply, still⟩ := exchange_alike indifferent c.searchRequest
      (fun _ made => request_method made) same
    rw [perform_search, perform_search, knowing_search, reply]
    exact ⟨rfl, still, _, rfl⟩

end Alike

theorem noting_indifferent {link : Link (StateM σ)} {alike : σ → σ → Prop}
    (indifferent : link.Indifferent alike) :
    link.noting.Indifferent fun a b => alike a.1 b.1 ∧
      a.2.filter (fun e => e.1.method = .post) = b.2.filter fun e => e.1.method = .post where
  symm same := ⟨indifferent.symm same.1, same.2.symm⟩
  post := by
    rintro ⟨s, noted⟩ ⟨t, noted'⟩ r ⟨same, logs⟩ posts
    obtain ⟨reply, still⟩ := indifferent.post same posts
    refine ⟨reply, still, ?_⟩
    change (noted ++ [(r, (link.send r s).1)]).filter _ = (noted' ++ [(r, (link.send r t).1)]).filter _
    rw [List.filter_append, List.filter_append, logs, reply]
  put := by
    rintro ⟨s, noted⟩ ⟨t, noted'⟩ r ⟨same, logs⟩ puts
    refine ⟨indifferent.put same puts, ?_⟩
    change (noted ++ [(r, (link.send r s).1)]).filter _ = _
    rw [List.filter_append, ← logs]
    simp [puts]
  wait ms same := ⟨indifferent.wait ms same.1, same.2⟩

theorem served_alike {link : Link (StateM σ)} {alike : σ → σ → Prop}
    (indifferent : link.Indifferent alike) (c : Client) (ready : Bool) (calls : List Call) {s t : σ}
    (same : alike s t) :
    (c.served link calls s).map (fun d => (d.outcome, d.data)) =
      ((c.knowing ready).served link calls t).map fun d => (d.outcome, d.data) := by
  induction calls generalizing c ready s t with
  | nil => rfl
  | cons call calls ih =>
    obtain ⟨outcome, ⟨still, logs⟩, later, client⟩ :=
      perform_alike (noting_indifferent indifferent) c ready call (s := (s, [])) (t := (t, []))
        ⟨same, rfl⟩
    have data : (c.serve link call s).data = ((c.knowing ready).serve link call t).data := logs
    have now : (c.serve link call s).outcome = ((c.knowing ready).serve link call t).outcome := outcome
    rw [served, served, List.map_cons, List.map_cons, now, data, client, ih _ later still]

end Client

namespace Script

theorem link_indifferent : link.Indifferent fun s t =>
    s.bulk = t.bulk ∧ s.search = t.search ∧ s.reachable = t.reachable where
  symm same := ⟨same.1.symm, same.2.1.symm, same.2.2.symm⟩
  post := by
    rintro s t r ⟨bulk, search, reachable⟩ posts
    have sent : r.method ≠ .put := by simp [posts]
    simp only [link, send, answer, routeOf, if_neg sent, reachable]
    split
    · by_cases lines : r.contentType = "application/x-ndjson"
      · simp [lines, bulk, search]
      · simp [lines, bulk, search]
    · exact ⟨rfl, bulk, search, reachable⟩
  put := by
    rintro s t r same puts
    simp only [link, send, answer, routeOf, if_pos puts]
    split <;> exact same
  wait _ same := same

end Script

namespace Client

/-- A call that needs the template sends one request for it as long as none before has installed it,
    before all else that it sends, and none later on. What the store answers to these requests makes
    no difference to the others, nor to what comes of any call. -/
theorem template_kept_apart (config : Config) (calls : List Call) :
    (∀ {σ : Type} (link : Link (StateM σ)) (s : σ) {i : Nat} {call : Call}, calls[i]? = some call →
      let served := (ofConfig config).served link calls s
      ∃ done, served[i]? = some done ∧
        done.exchanged = done.templates ++ done.data ∧
        done.templates.map Prod.fst =
          if call.triesTemplate ∧ ∀ d ∈ served.take i, ¬ d.installed then
            (ofConfig config).installations
          else []) ∧
    (∀ a, (ofConfig config).address ("_index_template/" ++ config.indexPrefix) = .ok a →
      (ofConfig config).installations =
        [⟨.put, a, (ofConfig config).authorization a, "application/json",
          (templateJson config.indexPrefix).text, config.requestTimeoutMs⟩]) ∧
    ∀ (s : Script) (one two : List Reply),
      ((ofConfig config).served Script.link calls { s with template := one }).map
          (fun d => (d.outcome, d.data)) =
        ((ofConfig config).served Script.link calls { s with template := two }).map
          fun d => (d.outcome, d.data) := by
  refine ⟨?_, ?_, ?_⟩
  · intro σ link s i call here
    exact templates_served link (ofConfig config) rfl calls s here
  · intro a usable
    exact (ofConfig config).installations_usable usable
  · intro s one two
    exact served_alike Script.link_indifferent (ofConfig config) false calls ⟨rfl, rfl, rfl⟩

theorem template_tried_twice :
    let config : Config := { storeUrl := "http://[::1]", bulkRetries := 0 }
    let calls : List Call :=
      [.ensureTemplate, .upload [], .upload [.ofIdentity 1 "a" 0], .ensureTemplate]
    let script : Script :=
      { template := [.unanswered, .answered 201 ""], bulk := [.answered 503 ""] }
    let served := (ofConfig config).served Script.link calls script
    let installation := ("http://[::1]/_index_template/opennms-alarms", "application/json")
    (∃ done, served[0]? = some done ∧
        done.templates.map (fun e => (e.1.address.text, e.1.contentType)) = [installation]) ∧
      (∃ done, served[1]? = some done ∧ done.templates = []) ∧
      (∃ done, served[2]? = some done ∧
        done.templates.map (fun e => (e.1.address.text, e.1.contentType)) = [installation]) ∧
      (∃ done, served[3]? = some done ∧ done.templates = []) ∧
      served.map (fun d => (d.outcome, d.data)) =
        ((ofConfig config).served Script.link calls { script with template := [] }).map
          fun d => (d.outcome, d.data) := by
  intro config calls script served installation
  obtain ⟨sends, _, apart⟩ := template_kept_apart config calls
  have shown : (ofConfig config).installations.map (fun r => (r.address.text, r.contentType)) =
      [installation] := by decide +kernel
  have failed : ∀ d ∈ served.take 2, ¬ d.installed := by decide +kernel
  have installed : ¬ ∀ d ∈ served.take 3, ¬ d.installed := by decide +kernel
  obtain ⟨first, at_zero, _, begun⟩ := sends Script.link script (i := 0) rfl
  obtain ⟨empty, at_one, _, spared⟩ := sends Script.link script (i := 1) rfl
  obtain ⟨batch, at_two, _, tried⟩ := sends Script.link script (i := 2) rfl
  obtain ⟨late, at_three, _, settled⟩ := sends Script.link script (i := 3) rfl
  rw [if_pos ⟨rfl, nofun⟩] at begun
  rw [if_neg fun tries => Bool.false_ne_true tries.1] at spared
  rw [if_pos ⟨rfl, failed⟩] at tried
  rw [if_neg fun tries => installed tries.2] at settled
  refine ⟨⟨first, at_zero, ?_⟩, ⟨empty, at_one, List.map_eq_nil_iff.mp spared⟩,
    ⟨batch, at_two, ?_⟩, ⟨late, at_three, List.map_eq_nil_iff.mp settled⟩,
    apart script script.template []⟩
  · rw [← shown, ← begun, List.map_map]
    rfl
  · rw [← shown, ← tried, List.map_map]
    rfl

end Client
end AlarmHistory.Store
