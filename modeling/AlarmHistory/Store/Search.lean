import AlarmHistory.Document.Encoding
/- Searching for alarm documents: the query, and what comes back. -/
namespace AlarmHistory.Store

open Json Json.Decoder

def searchSize : Nat := 10000

def searchJson : Json :=
  Json.sorted (.obj [("size", .int searchSize), ("query", .obj [("match_all", .obj [])]),
    ("sort", .arr [.obj [("first-event-time", .obj [("order", .str "asc")])]])])

/-- Documents that a search gave, and how many there are in all if that is known. -/
structure Page where
  total : Option Nat
  documents : List AlarmDocument
  deriving DecidableEq, Repr

namespace Page

def missing (p : Page) : Nat := p.total.getD 0 - p.documents.length

def totalDecoder : Decoder Nat := fun r =>
  match (Record.pure id |>.required "value" (natural 64) |>.decoder) r with
  | .ok n => .ok n
  | .error _ => natural 64 r

def hitDecoder : Decoder AlarmDocument :=
  Record.pure id |>.required "_source" AlarmDocument.decoder |>.decoder

def hitsDecoder : Decoder Page :=
  Record.pure Page.mk
    |>.optional "total" totalDecoder
    |>.defaulted "hits" (list hitDecoder) []
    |>.decoder

def decoder : Decoder Page :=
  Record.pure id |>.required "hits" hitsDecoder |>.decoder

def ofJson (v : Json) : Except ReadError Page := decode decoder v

end Page
end AlarmHistory.Store
