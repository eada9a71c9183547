import AlarmHistory.Proofs.Document.Text
import AlarmHistory.Proofs.Store.Overlay

/- A store that knows nothing but JSON. It takes the lines of a bulk request as they come, lays the
   `doc` of an update over what it holds, and runs scripts by their text. Whoever reads what it
   holds after the request for some documents gets what merging the documents gives. -/
namespace AlarmHistory.Json

mutual

def Reading.value? : Reading → Option Json
  | .null => some .null
  | .bool b => some (.bool b)
  | .int i => some (.int i)
  | .float x => some (.float x)
  | .str s => some (.str s)
  | .arr items none => (Reading.values? items).map .arr
  | .obj members none => (Reading.members? members).map .obj
  | _ => none

def Reading.values? : List Reading → Option (List Json)
  | [] => some []
  | r :: rest => do return (← r.value?) :: (← Reading.values? rest)

def Reading.members? : List (Key × Reading) → Option (List (String × Json))
  | [] => some []
  | (.name k, r) :: rest => do return (k, ← r.value?) :: (← Reading.members? rest)
  | _ :: _ => none

end

mutual

theorem value?_reading : ∀ v : Json, v.reading.value? = some v
  | .null | .bool _ | .int _ | .float _ | .str _ => rfl
  | .arr vs => by simp [reading, Reading.value?, values?_readings vs]
  | .obj ms => by simp [reading, Reading.value?, members?_readings ms]

theorem values?_readings : ∀ vs : List Json, Reading.values? (itemReadings vs) = some vs
  | [] => rfl
  | v :: vs => by simp [itemReadings, Reading.values?, value?_reading v, values?_readings vs]

theorem members?_readings : ∀ ms : List (String × Json),
    Reading.members? (memberReadings ms) = some ms
  | [] => rfl
  | (_, v) :: ms => by
    simp [memberReadings, Reading.members?, value?_reading v, members?_readings ms]

end

def line? (cs : List Char) : Option Json :=
  match readChars cs with
  | (r, none) => r.value?
  | _ => none

theorem line?_chars {v : Json} (exact : v.Exact) : line? v.chars = some v := by
  have read := read_text exact
  rw [readText, text, String.toList_ofList] at read
  rw [line?, read]
  exact value?_reading v

end AlarmHistory.Json

namespace AlarmHistory.Store
open Bulk Json

/-- What is stored, by index and id. -/
abbrev Sources := String × String → Option Members

def scripted? (script : Json) (source : Members) : Option Members :=
  match script.get? "lang", script.get? "source", script.get? "params" with
  | some (.str lang), some (.str text), some (.obj params) =>
    if lang = "painless" then (Procedure.ofText? text).bind fun s => s.run params [] source
    else none
  | _, _, _ => none

/-- What an update makes of what is stored. A `doc` may make a document if the update says so. -/
def updated? (work : Json) (stored : Option Members) : Option Members :=
  match work.get? "script", work.get? "doc", work.get? "doc_as_upsert" with
  | some script, _, _ => stored.bind (scripted? script)
  | none, some (.obj doc), upsert =>
    match stored, upsert with
    | some source, _ => some (overlayMembers source doc)
    | none, some (.bool true) => some doc
    | none, _ => none
  | _, _, _ => none

def place? (target : Json) : Option (String × String) := do
  let update ← target.get? "update"
  match update.get? "_index", update.get? "_id" with
  | some (.str index), some (.str id) => some (index, id)
  | _, _ => none

namespace Sources

def empty : Sources := fun _ => none

def update? (target work : Json) (s : Sources) : Option Sources := do
  let place ← place? target
  let source ← updated? work (s place)
  return fun p => if p = place then some source else s p

/-- The lines of a request, two for every update. The last line is ended like the others. -/
def takeLines : List (List Char) → Sources → Option Sources
  | [[]], s => some s
  | target :: work :: rest, s => do
    let target ← line? target
    let work ← line? work
    let s ← s.update? target work
    takeLines rest s
  | _, _ => none

def bulk (body : String) (s : Sources) : Option Sources := takeLines (body.toList.splitOn '\n') s

end Sources
end AlarmHistory.Store

namespace AlarmHistory.Bulk.Action
open Json

theorem target_exact (a : Action) : a.targetJson.Exact :=
  sorted_exact _ ⟨⟨trivial, trivial, trivial⟩, trivial⟩

theorem work_exact (a : Action) : a.workJson.Exact := by
  unfold workJson
  split
  · rename_i doc _
    exact ⟨doc.json_exact, trivial, trivial⟩
  · rename_i logs _
    exact sorted_exact _ ⟨⟨trivial, trivial, logs.json_exact, trivial⟩, trivial⟩

end AlarmHistory.Bulk.Action

namespace AlarmHistory.Store
open Bulk Json

theorem splitOn_ended {ls : List (List Char)} (whole : ∀ l ∈ ls, '\n' ∉ l) :
    (ls.flatMap (· ++ ['\n'])).splitOn '\n' = ls ++ [[]] := by
  induction ls with
  | nil => rfl
  | cons l ls ih =>
    rw [List.flatMap_cons, List.append_assoc, List.singleton_append,
      List.splitOn_append_cons_self_of_not_mem (whole l List.mem_cons_self),
      ih fun m member => whole m (List.mem_cons_of_mem l member)]
    rfl

def linesOf (as : List Action) : List (List Char) :=
  as.flatMap fun a => [a.targetJson.chars, a.workJson.chars]

theorem body_lines (as : List Action) :
    (body as).toList = (linesOf as).flatMap (· ++ ['\n']) := by
  rw [body, String.toList_join, linesOf]
  induction as with
  | nil => rfl
  | cons a as ih =>
    simp [Action.lines, text] at ih ⊢
    exact ih

theorem splitOn_body (as : List Action) : (body as).toList.splitOn '\n' = linesOf as ++ [[]] := by
  rw [body_lines]
  apply splitOn_ended
  intro l member
  obtain ⟨a, _, line⟩ := List.mem_flatMap.mp member
  rcases List.mem_cons.mp line with rfl | work
  · exact chars_line _ a.target_exact
  · rw [List.mem_singleton.mp work]
    exact chars_line _ a.work_exact

namespace Sources

theorem bulk_body (as : List Action) (s : Sources) :
    bulk (body as) s = as.foldlM (fun s a => s.update? a.targetJson a.workJson) s := by
  rw [bulk, splitOn_body]
  induction as generalizing s with
  | nil => rfl
  | cons a as ih =>
    rw [linesOf, List.flatMap_cons, List.foldlM_cons]
    simp only [List.cons_append, List.nil_append, takeLines, line?_chars a.target_exact,
      line?_chars a.work_exact, bind, Option.bind_some]
    exact congrArg _ (funext ih)

end Sources

theorem place?_target (a : Action) :
    place? a.targetJson = some (a.index, Decimal.intText a.id.toInt) := by
  have distinct : DistinctKeys [("_index", Json.str a.index),
      ("_id", .str (Decimal.intText a.id.toInt))] := by simp [DistinctKeys]
  obtain ⟨ns, same, _, lookups⟩ := sorted_object distinct
  have target : a.targetJson = .obj [("update", .obj ns)] := by
    rw [← same]
    rfl
  have index : ns.lookup "_index" = some (.str a.index) := lookups "_index"
  have id : ns.lookup "_id" = some (.str (Decimal.intText a.id.toInt)) := lookups "_id"
  simp [target, place?, get?, index, id]

theorem updated?_merge {a : Action} {d : AlarmDocument} (merge : a.work = .merge d.withoutLogs)
    (stored : Option Members) : updated? a.workJson stored = some (match stored with
      | none => fieldMembers d
      | some source => overlayMembers source (fieldMembers d)) := by
  rw [Action.workJson, merge]
  simp only [withoutLogs_json]
  cases stored <;> rfl

theorem append_script {a : Action} {logs : ChangeLogs} (append : a.work = .append logs) :
    ∃ script : Members, a.workJson = .obj [("script", .obj script)] ∧
      script.lookup "lang" = some (.str "painless") ∧
      script.lookup "source" = some (.str appendScript) ∧
      script.lookup "params" = some logs.json.sorted := by
  have distinct : DistinctKeys [("lang", Json.str "painless"), ("source", .str appendScript),
      ("params", logs.json)] := by simp [DistinctKeys]
  obtain ⟨script, same, _, lookups⟩ := sorted_object distinct
  refine ⟨script, ?_, lookups "lang", lookups "source", lookups "params"⟩
  rw [← same, Action.workJson, append]
  rfl

theorem updated?_append {a : Action} {logs : ChangeLogs} (append : a.work = .append logs)
    {params : Members} (given : logs.json.sorted = .obj params) {statement : Procedure.Statement}
    (script : Procedure.ofText? appendScript = some statement) (source : Members) :
    updated? a.workJson (some source) = statement.run params [] source := by
  obtain ⟨members, work, lang, text, params'⟩ := append_script append
  rw [given] at params'
  simp [work, updated?, scripted?, get?, lang, text, params', script]

theorem intText_injective {i j : Int32}
    (same : Decimal.intText i.toInt = Decimal.intText j.toInt) : i = j := by
  have first := read_text (int32_exact i)
  have second := read_text (int32_exact j)
  have text : (int32Json i).text = (int32Json j).text := same
  rw [text, second] at first
  injection first with value _
  injection value with value
  exact (Int32.toInt_inj.mp value).symm

def Place.key (p : Place) : String × String := (p.index, Decimal.intText p.id.toInt)

theorem Place.key_injective {p q : Place} (same : p.key = q.key) : p = q := by
  obtain ⟨index, id⟩ := Prod.mk.inj same
  obtain ⟨_, _⟩ := p
  obtain ⟨_, _⟩ := q
  exact Place.mk.injEq _ _ _ _ ▸ ⟨index, intText_injective id⟩

/-- A merge leaves the logs out, and entries are appended only to what is there. -/
def Fits (stored : Option AlarmDocument) : Work → Prop
  | .merge p => p.logs = {}
  | .append _ => stored.isSome

namespace Sources

/-- At every place there is what shows the document held there. -/
def Shows (s : Sources) (h : Holdings) : Prop :=
  ∀ place : Place, Option.Rel AlarmDocument.ShownBy (h place) (s place.key)

section Step
variable {s : Sources} {h : Holdings} (shows : s.Shows h)
include shows

theorem updated_shows (a : Action) (fits : Fits (h a.place) a.work) :
    ∃ source d, updated? a.workJson (s a.place.key) = some source ∧
      a.work.onto (h a.place) = some d ∧ d.ShownBy source := by
  have there := shows a.place
  generalize h a.place = held at fits there ⊢
  generalize s a.place.key = stored at there ⊢
  cases work : a.work with
  | merge p =>
    rw [work] at fits
    have plain : p.withoutLogs = p := by rw [AlarmDocument.withoutLogs, ← fits]
    refine ⟨_, _, updated?_merge (work.trans (congrArg _ plain.symm)) stored, rfl, ?_⟩
    cases there with
    | none => exact plain ▸ shown_new p
    | some shown =>
      have merged := shown_merge shown p
      rwa [plain] at merged
  | append logs =>
    rw [work] at fits
    cases there with
    | none => cases fits
    | some shown =>
      obtain ⟨params, statement, after, given, script, run, appended⟩ := shown_append shown logs
      refine ⟨after, _, ?_, rfl, appended⟩
      rw [updated?_append work given script, run]

theorem update_shows (a : Action) (fits : Fits (h a.place) a.work) :
    ∃ after, s.update? a.targetJson a.workJson = some after ∧ after.Shows (a.carryOut h) := by
  obtain ⟨source, d, updated, onto, shown⟩ := updated_shows shows a fits
  refine ⟨fun p => if p = a.place.key then some source else s p, ?_, fun place => ?_⟩
  · have target : place? a.targetJson = some a.place.key := place?_target a
    simp only [update?, target, updated, bind, Option.bind_some]
    rfl
  · change Option.Rel _ (if place = a.place then _ else _)
      (if place.key = a.place.key then _ else _)
    by_cases here : place = a.place
    · rw [if_pos here, if_pos (congrArg Place.key here), here, onto]
      exact .some shown
    · rw [if_neg here, if_neg fun same => here (Place.key_injective same)]
      exact shows place

theorem document_shows (t : Target) (position : Nat) (d : AlarmDocument) :
    ∃ after, (actionsOf t position d).foldlM (fun s a => s.update? a.targetJson a.workJson) s =
      some after ∧ after.Shows ((actionsOf t position d).foldl Action.carryOut h) := by
  obtain ⟨next, first, shows⟩ :=
    update_shows shows ⟨position, t.indexOf d, d.id, .merge d.withoutLogs⟩ rfl
  unfold actionsOf
  split
  · exact ⟨next, by rw [List.foldlM_cons, first]; rfl, shows⟩
  · have held : Fits (Action.carryOut h ⟨position, t.indexOf d, d.id, .merge d.withoutLogs⟩
        ⟨t.indexOf d, d.id⟩) (.append d.logs) :=
      congrArg Option.isSome (if_pos rfl)
    obtain ⟨after, second, shows⟩ :=
      update_shows shows ⟨position, t.indexOf d, d.id, .append d.logs⟩ held
    refine ⟨after, ?_, shows⟩
    rw [List.foldlM_cons, first]
    exact (congrArg (· >>= _) second)

end Step

theorem bulk_shows (t : Target) (docs : List (Nat × AlarmDocument)) {s : Sources} {h : Holdings}
    (shows : s.Shows h) : ∃ after, bulk (body (actions t docs)) s = some after ∧
      after.Shows ((actions t docs).foldl Action.carryOut h) := by
  rw [bulk_body]
  induction docs generalizing s h with
  | nil => exact ⟨s, rfl, shows⟩
  | cons e docs ih =>
    obtain ⟨next, first, shows⟩ := document_shows shows t e.1 e.2
    obtain ⟨after, rest, shows⟩ := ih shows
    refine ⟨after, ?_, ?_⟩
    · rw [actions, List.flatMap_cons, List.foldlM_append, first]
      exact rest
    · rw [actions, List.flatMap_cons, List.foldl_append]
      exact shows

section Patch
variable {s : Sources} {h : Holdings} (shows : s.Shows h)
include shows

theorem Shows.read {place : Place} {d : AlarmDocument} (held : h place = some d) :
    ∃ source, s place.key = some source ∧
      ∀ v, Reordered (.obj source) v → AlarmDocument.ofJson v = .ok d := by
  have there := shows place
  rw [held] at there
  cases stored : s place.key with
  | none =>
    rw [stored] at there
    cases there
  | some source =>
    rw [stored] at there
    cases there with
    | some shown => exact ⟨source, rfl, fun v => shown.decoded⟩

theorem patch_shows (t : Target) (position : Nat) (p : AlarmDocument) :
    ∃ after, bulk (body (actions t [(position, p)])) s = some after ∧
      after.Shows (Action.carryOut h ⟨position, t.indexOf p, p.id, .merge p⟩) := by
  obtain ⟨after, sent, shows⟩ := bulk_shows t [(position, p)] shows
  refine ⟨after, sent, ?_⟩
  rwa [actions, List.flatMap_cons, List.flatMap_nil, List.append_nil, carryOut_actionsOf] at shows

end Patch

theorem empty_shows : empty.Shows fun _ => none := fun _ => .none

/-- The patches of one alarm, sent to a store that has nothing: what it then holds is read back, in
    any order of members, as the patches merged one into the other. -/
theorem bulk_merges (t : Target) (index : String) (id : Int32) (first : Nat × AlarmDocument)
    (rest : List (Nat × AlarmDocument))
    (same : ∀ e ∈ first :: rest, t.indexOf e.2 = index ∧ e.2.id = id) :
    ∃ sources source, bulk (body (actions t (first :: rest))) empty = some sources ∧
      sources (index, Decimal.intText id.toInt) = some source ∧
      ∀ v, Reordered (.obj source) v → AlarmDocument.ofJson v =
        .ok ((rest.map Prod.snd).foldl AlarmDocument.merge first.2) := by
  obtain ⟨sources, carried, shows⟩ := bulk_shows t (first :: rest) empty_shows
  have held : (actions t (first :: rest)).foldl Action.carryOut (fun _ => none) ⟨index, id⟩ =
      some ((rest.map Prod.snd).foldl AlarmDocument.merge first.2) := by
    have all : (first :: rest).filter (fun e => t.placeOf e.2 = ⟨index, id⟩) = first :: rest :=
      List.filter_eq_self.mpr fun e member => by
        simpa [Target.placeOf] using same e member
    rw [carryOut_actions, all, List.foldl_cons]
    exact merged_onto first.2 rest
  have there := shows ⟨index, id⟩
  rw [held] at there
  cases stored : sources (Place.key ⟨index, id⟩) with
  | none =>
    rw [stored] at there
    cases there
  | some source =>
    rw [stored] at there
    cases there with
    | some shown => exact ⟨sources, source, carried, stored, fun v => shown.decoded⟩

def acknowledging (updateTime : Int64) (user : Edit String) (log : List AckChange) :
    AlarmDocument where
  header := ⟨7, "link", 1000, 1000, updateTime⟩
  snapshot := { ackUser := user }
  logs := { ack := log }

theorem withdrawn_acknowledgement :
    let t : Target := ⟨"alarms", .monthly⟩
    let docs := [(0, acknowledging 1000 (.put "ann") []),
      (1, acknowledging 2000 .clear [⟨2000, some "ann", none⟩])]
    ∃ sources source, bulk (body (actions t docs)) empty = some sources ∧
      sources ("alarms-1970-01", "7") = some source ∧
      ∀ v, Reordered (.obj source) v → AlarmDocument.ofJson v =
        .ok (acknowledging 2000 .clear [⟨2000, some "ann", none⟩]) := by
  intro t docs
  have same : ∀ e ∈ docs, t.indexOf e.2 = "alarms-1970-01" ∧ e.2.id = 7 := by decide +kernel
  have id : Decimal.intText (Int32.toInt 7) = "7" := by decide +kernel
  have merged : (acknowledging 1000 (.put "ann") []).merge
      (acknowledging 2000 .clear [⟨2000, some "ann", none⟩]) =
      acknowledging 2000 .clear [⟨2000, some "ann", none⟩] := by decide +kernel
  rw [← merged, ← id]
  exact bulk_merges t "alarms-1970-01" 7 _ _ same

end Sources
end AlarmHistory.Store
