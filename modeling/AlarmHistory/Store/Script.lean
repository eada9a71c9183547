import AlarmHistory.Store.Client
/- A store that answers from a script, one answer for every request of a kind, and notes what it
   was asked. Beyond the script it answers that all is well. A store out of reach answers nothing
   and notes nothing. -/
namespace AlarmHistory.Store

structure Script where
  bulk : List Reply := []
  template : List Reply := []
  search : List Reply := []
  requests : List Request := []
  reachable : Bool := true
  deriving DecidableEq, Repr

namespace Script

def templateDone : Json := .obj [("acknowledged", .bool true)]

def nothingFound : Json := .obj [("hits", .obj [("hits", .arr [])])]

def allLanded (body : String) : Json :=
  let actions := (body.toList.filter (· == '\n')).length / 2
  .obj [("took", .int 1), ("errors", .bool false),
    ("items", .arr (List.replicate actions (.obj [("update", .obj [("status", .int 200)])])))]

inductive Route where
  | bulk
  | template
  | search
  deriving DecidableEq, Repr

def routeOf (r : Request) : Route :=
  if r.method = .put then .template
  else if r.contentType = "application/x-ndjson" then .bulk
  else .search

def answer (s : Script) (r : Request) : Reply × Script :=
  let s := { s with requests := s.requests ++ [r] }
  match routeOf r with
  | .bulk =>
    (s.bulk.head?.getD (.answered 200 (allLanded r.body).text), { s with bulk := s.bulk.tail })
  | .template =>
    (s.template.head?.getD (.answered 200 templateDone.text),
      { s with template := s.template.tail })
  | .search =>
    (s.search.head?.getD (.answered 200 nothingFound.text), { s with search := s.search.tail })

def send (r : Request) (s : Script) : Reply × Script :=
  if s.reachable then s.answer r else (.unanswered, s)

/-- Talks to the script; waiting takes no time. -/
def link : Link (StateM Script) where
  send := send
  wait _ := pure ()

end Script
end AlarmHistory.Store
